import SensorFleet.Proofs.Queue.Fifo
import Mathlib.Order.Bounds.Basic

/-!
What can be read off a channel from outside. Along every run the length keeps to the capacity and the
high-water mark is the greatest of all lengths so far; a channel that was closed stays closed and
loses items from its front only, and every call that returned because of the closing is counted once.
-/
namespace SensorFleet

namespace Line
variable {α : Type} {l l' : Line α} {r : Reaction α} {rs : List (Reaction α)}

theorem Takes.capacity (h : l.Takes r l') : l'.capacity = l.capacity := by
  cases h <;> rfl

theorem Takes.fits (h : l.Takes r l') (fits : l.items.length ≤ l.capacity) :
    l'.items.length ≤ l'.capacity := by
  cases h with
  | accepted opened room =>
    rw [List.length_append, List.length_singleton]
    exact room
  | received items =>
    rw [items, List.length_cons] at fits
    exact Nat.le_of_succ_le fits
  | _ => exact fits

theorem Comes.fits (h : l.Comes rs l') (fits : l.items.length ≤ l.capacity) :
    l'.items.length ≤ l.capacity := by
  have both : l'.capacity = l.capacity ∧ l'.items.length ≤ l'.capacity := by
    induction h with
    | start => exact ⟨rfl, fits⟩
    | next prior takes ih =>
      obtain ⟨capacity, within⟩ := ih
      exact ⟨takes.capacity.trans capacity, takes.fits within⟩
  obtain ⟨capacity, within⟩ := both
  rwa [capacity] at within

theorem Comes.shrinks (h : l.Comes rs l') (closed : l.isClosed = true) : l'.items <:+ l.items := by
  have all := h.items
  obtain ⟨_, nothing_entered⟩ := h.sealed closed
  rw [nothing_entered, List.append_nil] at all
  exact ⟨outs rs, all.symm⟩

end Line

namespace Traffic
variable {ω α : Type}

/-- Whether a call returns by it because the channel is closed. -/
def Event.isTooLate (e : Event ω α) : Bool :=
  match e.deed, e.reaction with
  | .send _, .refused _ | .goOn, .refused _ | .offer _, .handedBack .closed _ => true
  | _, _ => false

variable [DecidableEq ω] {capacity : Nat} {es before after : List (Event ω α)} {e : Event ω α}
  {t t' m : Traffic ω α}

section Steps
variable {who : ω} {deed : Deed α} {next : Reaction α × Traffic ω α}

/-- What a deed adds to the number of calls that came too late. -/
theorem Acts.late (h : t.Acts who deed next) : next.2.channel.late =
    t.channel.late + if (Event.mk who deed next.1).isTooLate then 1 else 0 := by
  cases h with
  | sends parked stands woken sends =>
    cases sends <;> cases parked <;> rfl
  | receives parked stands woken receives =>
    cases receives <;> cases parked <;> rfl
  | offers stands offers => cases offers <;> rfl
  | dropsSend | dropsRecv | closes => rfl

/-- The mark rises with the length and never falls. -/
theorem Acts.highWater (h : t.Acts who deed next)
    (le : t.channel.length ≤ t.channel.highWater) :
    next.2.channel.highWater = max next.2.channel.length t.channel.highWater := by
  -- in all cases but two the channel has the length and the mark that it had
  have same {q : Channel ω α} (length : q.length = t.channel.length)
      (mark : q.highWater = t.channel.highWater) :
      q.highWater = max q.length t.channel.highWater := by
    rw [length, mark, Nat.max_eq_right le]
  have pushed {q : Channel ω α} (x : α) (length : q.length = t.channel.length)
      (mark : q.highWater = t.channel.highWater) :
      (q.push x).highWater = max (q.push x).length t.channel.highWater := by
    have longer : (q.push x).length = t.channel.length + 1 := by
      rw [← length]
      exact List.length_append
    rw [longer, Nat.max_comm, ← mark, ← length]
    rfl
  cases h with
  | @sends x look parked stands woken sends =>
    cases sends with
    | refused closed | waits opened full => exact same rfl rfl
    | accepted opened room => exact pushed x rfl rfl
  | @receives look parked stands woken receives =>
    cases receives with
    | @item x rest buffer =>
      have shorter : rest.length ≤ t.channel.highWater := by
        have whole : t.channel.length = rest.length + 1 := congrArg List.length buffer
        omega
      exact (Nat.max_eq_right shorter).symm
    | ended buffer closed | waits buffer opened => exact same rfl rfl
  | @offers x look stands offers =>
    cases offers with
    | closed closed | full opened full => exact same rfl rfl
    | accepted opened room => exact pushed x rfl rfl
  | dropsSend | dropsRecv | closes => exact same rfl rfl

end Steps

theorem Run.last (h : Run capacity (es ++ [e]) t) :
    ∃ m, Run capacity es m ∧ m.act? e.who e.deed = some (e.reaction, t) := by
  generalize hall : es ++ [e] = all at h
  cases h with
  | start => simp at hall
  | next prior act =>
    obtain ⟨rfl, same⟩ := List.append_inj' hall rfl
    obtain rfl := List.singleton_inj.mp same
    exact ⟨_, prior, act⟩

theorem Run.of_nil (h : Run capacity ([] : List (Event ω α)) t) :
    t = ⟨.new capacity, fun _ => .idle⟩ := by
  generalize none_yet : ([] : List (Event ω α)) = all at h
  cases h with
  | start => rfl
  | next => simp at none_yet

/-- What happened determines the state. -/
theorem Run.unique (h : Run capacity es t) (h' : Run capacity es t') : t = t' := by
  induction h generalizing t' with
  | start => exact h'.of_nil.symm
  | next prior act ih =>
    obtain ⟨m, prior', act'⟩ := h'.last
    obtain rfl := ih prior'
    rw [act, Option.some.injEq, Prod.mk.injEq] at act'
    exact act'.2

/-- Every run goes through the states of its beginnings. -/
theorem Run.split (h : Run capacity (before ++ after) t) :
    ∃ m, Run capacity before m ∧ m.channel.line.Comes (reactions after) t.channel.line := by
  induction after using List.reverseRecOn generalizing t with
  | nil =>
    rw [List.append_nil] at h
    exact ⟨t, h, .start⟩
  | append_singleton after e ih =>
    rw [← List.append_assoc] at h
    obtain ⟨t₁, prior, act⟩ := h.last
    obtain ⟨m, first, comes⟩ := ih prior
    refine ⟨m, first, ?_⟩
    rw [reactions, List.map_append]
    exact comes.next (acts_of_act act).takes

theorem Run.isClosed_iff (h : Run capacity es t) :
    t.channel.isClosed = true ↔ ∃ e ∈ es, e.deed = .close := by
  have opened : (Channel.new capacity : Channel ω α).line.isClosed ≠ true := by
    simp [Channel.line, Channel.new]
  rw [← h.closing_iff (List.Subset.refl es)]
  exact h.comes.isClosed_iff.trans (or_iff_right opened)

def Passed (capacity : Nat) (es : List (Event ω α)) (m : Traffic ω α) : Prop :=
  ∃ before, before <+: es ∧ Run capacity before m

def lengths (capacity : Nat) (es : List (Event ω α)) : Set Nat :=
  {n | ∃ m : Traffic ω α, Passed capacity es m ∧ m.channel.length = n}

theorem Run.passed_iff (h : Run capacity (es ++ [e]) t) :
    Passed capacity (es ++ [e]) m ↔ m = t ∨ Passed capacity es m := by
  constructor
  · rintro ⟨before, earlier, run⟩
    rcases List.prefix_concat_iff.mp earlier with rfl | earlier
    · exact .inl (run.unique h)
    · exact .inr ⟨before, earlier, run⟩
  · rintro (rfl | ⟨before, earlier, run⟩)
    · exact ⟨es ++ [e], List.prefix_rfl, h⟩
    · exact ⟨before, earlier.trans (List.prefix_append es [e]), run⟩

theorem Run.lengths_snoc (h : Run capacity (es ++ [e]) t) :
    lengths capacity (es ++ [e]) = insert t.channel.length (lengths capacity es) := by
  ext n
  constructor
  · rintro ⟨m, passed, rfl⟩
    rcases h.passed_iff.mp passed with rfl | earlier
    · exact .inl rfl
    · exact .inr ⟨m, earlier, rfl⟩
  · rintro (rfl | ⟨m, earlier, rfl⟩)
    · exact ⟨t, h.passed_iff.mpr (.inl rfl), rfl⟩
    · exact ⟨m, h.passed_iff.mpr (.inr earlier), rfl⟩

theorem lengths_nil : lengths capacity ([] : List (Event ω α)) = {0} := by
  ext n
  constructor
  · rintro ⟨m, ⟨before, earlier, run⟩, rfl⟩
    obtain rfl := List.prefix_nil.mp earlier
    rw [run.of_nil]
    rfl
  · rintro rfl
    exact ⟨_, ⟨[], List.prefix_rfl, .start⟩, rfl⟩

theorem Run.highWater (h : Run capacity es t) :
    IsGreatest (lengths capacity es) t.channel.highWater := by
  induction h with
  | start =>
    rw [lengths_nil]
    exact isGreatest_singleton
  | @next es t t' who deed reaction prior act ih =>
    have le : t.channel.length ≤ t.channel.highWater :=
      ih.2 ⟨t, ⟨es, List.prefix_rfl, prior⟩, rfl⟩
    rw [(prior.next act).lengths_snoc, (acts_of_act act).highWater le]
    exact ih.insert _

theorem Run.late (h : Run capacity es t) : t.channel.late = es.countP Event.isTooLate := by
  induction h with
  | start => rfl
  | next prior act ih =>
    rw [(acts_of_act act).late, ih, List.countP_append, List.countP_singleton]

/-- Every call that closes tells whether it was the first. -/
theorem Run.closed_first (h : Run capacity (before ++ e :: after) t) (closing : e.deed = .close) :
    ∃ first, e.reaction = .closed first ∧ (first = true ↔ ∀ c ∈ before, c.deed ≠ .close) := by
  rw [← List.singleton_append, ← List.append_assoc] at h
  obtain ⟨_, run, _⟩ := h.split
  obtain ⟨m, prior, act⟩ := run.last
  rw [closing, act?] at act
  obtain ⟨same, _⟩ := Prod.mk.inj (Option.some.inj act)
  refine ⟨_, same.symm, ?_⟩
  rw [Bool.not_eq_true', ← Bool.not_eq_true, prior.isClosed_iff]
  simp only [not_exists, not_and, ne_eq]

/-- Whatever any number of parties do at a channel, and however their calls wait and are dropped: the
length keeps to the capacity; the high-water mark is the greatest length of the whole run; the channel
is closed from the first call that closes it on, which alone is told so, and from any closed state on
what is inside is the rest of what was; and the late calls are those that returned because the
channel was closed. -/
theorem Run.gauges_exact (h : Run capacity es t) :
    t.channel.length ≤ max capacity 1 ∧
    IsGreatest (lengths capacity es) t.channel.highWater ∧
    (t.channel.isClosed = true ↔ ∃ e ∈ es, e.deed = .close) ∧
    (∀ before e after, es = before ++ e :: after → e.deed = .close →
      ∃ first, e.reaction = .closed first ∧ (first = true ↔ ∀ c ∈ before, c.deed ≠ .close)) ∧
    (∀ m, Passed capacity es m → m.channel.isClosed = true →
      t.channel.isClosed = true ∧ t.channel.buffer <:+ m.channel.buffer) ∧
    t.channel.late = es.countP Event.isTooLate := by
  refine ⟨h.comes.fits (Nat.zero_le _), h.highWater, h.isClosed_iff, ?_, ?_, h.late⟩
  · rintro before e after rfl closing
    exact h.closed_first closing
  · rintro m ⟨before, ⟨after, rfl⟩, run⟩ closed
    obtain ⟨m', run', comes⟩ := h.split
    obtain rfl := run.unique run'
    exact ⟨(comes.sealed closed).1, comes.shrinks closed⟩

/-- One place, though none was asked for. A writer waits when the channel is closed and comes too late,
as does an offer after it, but not the one that found the channel full; the second closing is told
that it is not the first. -/
theorem gauges_of_one_place :
    ∃ (es : List (Event Nat Nat)) (t : Traffic Nat Nat), Run 0 es t ∧
      t.channel.length ≤ max 0 1 ∧ IsGreatest (lengths 0 es) 1 ∧ t.channel.isClosed = true ∧
      t.channel.late = 2 ∧ es.countP Event.isTooLate = 2 := by
  let deeds : List (Nat × Deed Nat) := [(0, .send 10), (1, .send 20), (2, .offer 30), (3, .close),
    (1, .goOn), (2, .offer 40), (4, .close), (5, .recv)]
  let isSpent (next : List (Event Nat Nat) × Traffic Nat Nat) : Bool :=
    next.2.channel.highWater = 1 ∧ next.2.channel.late = 2 ∧
      next.1.any fun e => e.deed = .close
  obtain ⟨es, t, run, spent⟩ := exists_run 0 deeds isSpent (by decide)
  obtain ⟨mark, late, closing⟩ := of_decide_eq_true spent
  obtain ⟨e, listed, closing⟩ := List.any_eq_true.mp closing
  obtain ⟨fits, greatest, closed, _, _, counted⟩ := run.gauges_exact
  exact ⟨es, t, run, fits, mark ▸ greatest, closed.mpr ⟨e, listed, of_decide_eq_true closing⟩, late,
    counted ▸ late⟩

end Traffic
end SensorFleet

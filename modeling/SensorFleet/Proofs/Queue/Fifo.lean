import SensorFleet.Proofs.Queue.Traffic
import Mathlib.Data.List.Induction

/-!
First in, first out. A line is what a channel is for its users: items in order and whether more may
come. Whatever happens at a channel is allowed by the line that it stands for, so that what was
received and what is inside make up what was accepted, in order, however the parties wait, are woken
and give up; nothing is accepted after the closing, and the end is seen at a closed and empty line.
-/
namespace SensorFleet

structure Line (α : Type) where
  capacity : Nat
  items : List α
  isClosed : Bool

namespace Line
variable {α : Type}

inductive Takes (l : Line α) : Reaction α → Line α → Prop
  | accepted {x : α} (opened : l.isClosed = false) (room : l.items.length < l.capacity) :
      Takes l (.accepted x) { l with items := l.items ++ [x] }
  | refused {x : α} (closed : l.isClosed = true) : Takes l (.refused x) l
  | handedBackClosed {x : α} (closed : l.isClosed = true) : Takes l (.handedBack .closed x) l
  | handedBackFull {x : α} (opened : l.isClosed = false) (full : l.capacity ≤ l.items.length) :
      Takes l (.handedBack .full x) l
  | received {x : α} {rest : List α} (items : l.items = x :: rest) :
      Takes l (.received x) { l with items := rest }
  | ended (items : l.items = []) (closed : l.isClosed = true) : Takes l .ended l
  | waits (opened : l.isClosed = false) : Takes l .waits l
  | dropped : Takes l .dropped l
  | closed : Takes l (.closed (!l.isClosed)) { l with isClosed := true }

def ins (rs : List (Reaction α)) : List α := rs.filterMap Reaction.accepted?

def outs (rs : List (Reaction α)) : List α := rs.filterMap Reaction.received?

@[simp] theorem ins_append (rs rs' : List (Reaction α)) :
    ins (rs ++ rs') = ins rs ++ ins rs' := List.filterMap_append

@[simp] theorem outs_append (rs rs' : List (Reaction α)) :
    outs (rs ++ rs') = outs rs ++ outs rs' := List.filterMap_append

inductive Comes (l : Line α) : List (Reaction α) → Line α → Prop
  | start : Comes l [] l
  | next {rs : List (Reaction α)} {r : Reaction α} {l₁ l₂ : Line α} (prior : Comes l rs l₁)
      (takes : l₁.Takes r l₂) : Comes l (rs ++ [r]) l₂

theorem Takes.items {l l' : Line α} {r : Reaction α} (h : l.Takes r l') :
    l.items ++ ins [r] = outs [r] ++ l'.items := by
  cases h with
  | accepted opened room => rfl
  | @received x rest items =>
    rw [items]
    exact List.append_nil _
  | _ => exact List.append_nil _

theorem Takes.sealed {l l' : Line α} {r : Reaction α} (h : l.Takes r l')
    (closed : l.isClosed = true) : l'.isClosed = true ∧ ins [r] = [] := by
  cases h with
  | accepted opened room => simp [closed] at opened
  | closed => exact ⟨rfl, rfl⟩
  | _ => exact ⟨closed, rfl⟩

namespace Comes
variable {l l' : Line α} {rs rs' : List (Reaction α)}

/-- What came out and what is inside make up what was inside and what entered. -/
theorem items (h : l.Comes rs l') : l.items ++ ins rs = outs rs ++ l'.items := by
  induction h with
  | start => simp [ins, outs]
  | next prior takes ih =>
    rw [ins_append, outs_append, ← List.append_assoc, ih, List.append_assoc, takes.items,
      List.append_assoc]

theorem last {r : Reaction α} (h : l.Comes (rs ++ [r]) l') :
    ∃ m, l.Comes rs m ∧ m.Takes r l' := by
  generalize hall : rs ++ [r] = all at h
  cases h with
  | start => simp at hall
  | next prior takes =>
    obtain ⟨rfl, hr⟩ := List.append_inj' hall rfl
    obtain rfl := List.singleton_inj.mp hr
    exact ⟨_, prior, takes⟩

theorem split (h : l.Comes (rs ++ rs') l') : ∃ m, l.Comes rs m ∧ m.Comes rs' l' := by
  induction rs' using List.reverseRecOn generalizing l' with
  | nil => exact ⟨l', by simpa using h, .start⟩
  | append_singleton rs' r ih =>
    rw [← List.append_assoc] at h
    obtain ⟨m₁, prior, takes⟩ := h.last
    obtain ⟨m, before, after⟩ := ih prior
    exact ⟨m, before, after.next takes⟩

theorem sealed (h : l.Comes rs l') (closed : l.isClosed = true) :
    l'.isClosed = true ∧ ins rs = [] := by
  induction h with
  | start => exact ⟨closed, rfl⟩
  | next prior takes ih =>
    obtain ⟨shut, none_before⟩ := ih
    obtain ⟨shut', none_now⟩ := takes.sealed shut
    exact ⟨shut', by rw [ins_append, none_before, none_now, List.append_nil]⟩

/-- A line is closed when it was closed before or the closing is among the answers. -/
theorem isClosed_iff (h : l.Comes rs l') :
    l'.isClosed = true ↔ l.isClosed = true ∨ ∃ first, Reaction.closed first ∈ rs := by
  induction h with
  | start => simp
  | @next rs r l₁ l₂ prior takes ih =>
    cases takes with
    | closed => simp
    | _ => simp [ih]

end Comes
end Line

/-- The line for which a channel stands. -/
def Channel.line {ω α : Type} (q : Channel ω α) : Line α := ⟨q.capacity, q.buffer, q.isClosed⟩

def Standing.item? {α : Type} : Standing α → Option α
  | .sending x => some x
  | _ => none

namespace Traffic
variable {ω α : Type}

def reactions (es : List (Event ω α)) : List (Reaction α) := es.map Event.reaction

/-- The items that entered and who brought them, in order. -/
def brought (es : List (Event ω α)) : List (ω × α) :=
  es.filterMap fun e => e.reaction.accepted?.map (e.who, ·)

/-- The items that came out and who had brought them: the first ones that entered. -/
def cameOut (es : List (Event ω α)) : List (ω × α) :=
  (brought es).take (Line.outs (reactions es)).length

theorem map_brought (es : List (Event ω α)) :
    (brought es).map Prod.snd = Line.ins (reactions es) := by
  simp only [brought, Line.ins, reactions, List.map_filterMap, List.filterMap_map]
  congr 1
  funext e
  cases h : e.reaction.accepted? <;> simp [h]

theorem brought_append (es es' : List (Event ω α)) :
    brought (es ++ es') = brought es ++ brought es' := List.filterMap_append

variable [DecidableEq ω]

def ofParty (w : ω) (bs : List (ω × α)) : List α := (bs.filter fun b => b.1 = w).map Prod.snd

/-- The items that a party called with, in order, whatever came of it. -/
def meant (w : ω) (es : List (Event ω α)) : List α :=
  es.filterMap fun e =>
    match e.deed with
    | .send x | .offer x => if e.who = w then some x else none
    | _ => none

theorem ofParty_append (w : ω) (bs bs' : List (ω × α)) :
    ofParty w (bs ++ bs') = ofParty w bs ++ ofParty w bs' := by simp [ofParty]

theorem meant_append (w : ω) (es es' : List (Event ω α)) :
    meant w (es ++ es') = meant w es ++ meant w es' := List.filterMap_append

/-- What happens at a channel is allowed by its line. -/
theorem Acts.takes {t : Traffic ω α} {who : ω} {deed : Deed α} {next : Reaction α × Traffic ω α}
    (h : t.Acts who deed next) : t.channel.line.Takes next.1 next.2.channel.line := by
  have left {q : Channel ω α} (hc : q.capacity = t.channel.capacity)
      (hb : q.buffer = t.channel.buffer) (ho : q.isClosed = t.channel.isClosed) :
      t.channel.line.Takes .dropped q.line := by
    have same : q.line = t.channel.line := by simp [Channel.line, hc, hb, ho]
    exact same ▸ .dropped
  cases h with
  | sends parked stands woken sends =>
    cases sends with
    | refused closed => exact .refused closed
    | waits opened full => exact .waits opened
    | accepted opened room => exact .accepted opened room
  | receives parked stands woken receives =>
    cases receives with
    | item buffer => exact .received buffer
    | ended buffer closed => exact .ended buffer closed
    | waits buffer opened => exact .waits opened
  | offers idle offers =>
    cases offers with
    | closed closed => exact .handedBackClosed closed
    | full opened full => exact .handedBackFull opened full
    | accepted opened room => exact .accepted opened room
  | dropsSend stands => exact left rfl rfl rfl
  | dropsRecv stands => exact left rfl rfl rfl
  | closes => exact .closed

@[simp] theorem standing_enter (t : Traffic ω α) (who : ω) (standing : Standing α)
    (q : Channel ω α) : (t.enter who standing q).standing who = standing := by simp [enter]

theorem standing_enter_of_ne (t : Traffic ω α) {who w : ω} (h : w ≠ who) (standing : Standing α)
    (q : Channel ω α) : (t.enter who standing q).standing w = t.standing w := by simp [enter, h]

/-- What others do leaves a party where it stands. -/
theorem Acts.standing_of_ne {t : Traffic ω α} {who w : ω} {deed : Deed α}
    {next : Reaction α × Traffic ω α} (h : t.Acts who deed next) (hw : w ≠ who) :
    next.2.standing w = t.standing w := by
  cases h with
  | @sends x look =>
    obtain ⟨look, q⟩ := look
    cases look <;> exact standing_enter_of_ne t hw _ q
  | @receives look =>
    obtain ⟨look, q⟩ := look
    cases look <;> exact standing_enter_of_ne t hw _ q
  | @offers x look =>
    obtain ⟨look, q⟩ := look
    cases look <;> rfl
  | dropsSend | dropsRecv => exact standing_enter_of_ne t hw _ _
  | closes => rfl

/-- What a party brings in and what it is left with is what it had at hand, or called with. -/
theorem Acts.brings {t : Traffic ω α} {who : ω} {deed : Deed α} {next : Reaction α × Traffic ω α}
    (h : t.Acts who deed next) (w : ω) :
    (ofParty w (brought [⟨who, deed, next.1⟩]) ++ (next.2.standing w).item?.toList).Sublist
      ((t.standing w).item?.toList ++ meant w [⟨who, deed, next.1⟩]) := by
  by_cases hw : w = who
  · subst hw
    cases h with
    | @sends x look parked stands woken sends =>
      rw [stands]
      cases sends <;> cases parked <;>
        simp [brought, ofParty, meant, afterSend, Reaction.accepted?, Standing.item?]
    | @receives look parked stands woken receives =>
      rw [stands]
      cases receives <;> cases parked <;>
        simp [brought, ofParty, meant, afterRecv, Reaction.accepted?, Standing.item?]
    | @offers x look stands offers =>
      cases offers <;>
        simp [brought, ofParty, meant, afterOffer, Reaction.accepted?, Standing.item?, stands]
    | dropsSend stands | dropsRecv stands =>
      simp [brought, ofParty, meant, Reaction.accepted?, Standing.item?, stands]
    | closes => simp [brought, ofParty, meant, Reaction.accepted?]
  · have foreign : ofParty w (brought [⟨who, deed, next.1⟩]) = [] := by
      cases hr : next.1.accepted? <;> simp [brought, ofParty, hr, Ne.symm hw]
    rw [h.standing_of_ne hw, foreign]
    exact List.sublist_append_left _ _

/-- What a party brought in, with what it has at hand, is among what it called with, in order. -/
theorem Run.brought_meant {capacity : Nat} {es : List (Event ω α)} {t : Traffic ω α}
    (h : Run capacity es t) (w : ω) :
    (ofParty w (brought es) ++ (t.standing w).item?.toList).Sublist (meant w es) := by
  induction h with
  | start => exact .slnil
  | @next es t t' who deed reaction prior act ih =>
    have step := (acts_of_act act).brings w
    rw [brought_append, ofParty_append, meant_append, List.append_assoc]
    refine (step.append_left _).trans ?_
    rw [← List.append_assoc]
    exact ih.append_right _

theorem Run.comes {capacity : Nat} {es : List (Event ω α)} {t : Traffic ω α}
    (h : Run capacity es t) :
    (Channel.new capacity : Channel ω α).line.Comes (reactions es) t.channel.line := by
  induction h with
  | start => exact .start
  | @next es t t' who deed reaction prior act ih =>
    have takes := (acts_of_act act).takes
    simpa [reactions] using ih.next takes

theorem Run.acts {capacity : Nat} {es : List (Event ω α)} {t : Traffic ω α}
    (h : Run capacity es t) {e : Event ω α} (he : e ∈ es) :
    ∃ t₁ t₂ : Traffic ω α, t₁.Acts e.who e.deed (e.reaction, t₂) := by
  induction h with
  | start => cases he
  | @next es t t' who deed reaction prior act ih =>
    rcases List.mem_append.mp he with before | now
    · exact ih before
    · obtain rfl := List.mem_singleton.mp now
      exact ⟨t, t', acts_of_act act⟩

/-- Only offers are handed back, each with the item that was offered. -/
theorem Acts.handedBack {t t' : Traffic ω α} {who : ω} {deed : Deed α} {e : Refusal} {x : α}
    (h : t.Acts who deed (.handedBack e x, t')) : deed = .offer x := by
  generalize hn : ((.handedBack e x, t') : Reaction α × Traffic ω α) = next at h
  cases h with
  | sends parked stands woken sends => cases sends <;> cases hn
  | receives parked stands woken receives => cases receives <;> cases hn
  | offers stands offers => cases offers <;> cases hn <;> rfl
  | dropsSend | dropsRecv | closes => cases hn

theorem Acts.closed_iff {t : Traffic ω α} {who : ω} {deed : Deed α}
    {next : Reaction α × Traffic ω α} (h : t.Acts who deed next) :
    deed = .close ↔ ∃ first, next.1 = .closed first := by
  cases h with
  | sends parked stands woken sends =>
    cases sends <;> cases parked <;> simp [afterSend]
  | receives parked stands woken receives =>
    cases receives <;> cases parked <;> simp [afterRecv]
  | offers stands offers => cases offers <;> simp [afterOffer]
  | dropsSend | dropsRecv => simp
  | closes => simp

theorem Run.closing_iff {capacity : Nat} {es before : List (Event ω α)} {t : Traffic ω α}
    (h : Run capacity es t) (hb : before ⊆ es) :
    (∃ first, Reaction.closed first ∈ reactions before) ↔ ∃ e ∈ before, e.deed = .close := by
  simp only [reactions, List.mem_map]
  constructor
  · rintro ⟨first, e, he, hr⟩
    obtain ⟨_, _, acts⟩ := h.acts (hb he)
    exact ⟨e, he, acts.closed_iff.mpr ⟨first, hr⟩⟩
  · rintro ⟨e, he, hd⟩
    obtain ⟨_, _, acts⟩ := h.acts (hb he)
    obtain ⟨first, hr⟩ := acts.closed_iff.mp hd
    exact ⟨first, e, he, hr⟩

/-- However any number of parties send, offer, receive, drop calls that wait and close: the answers are
those of a line; what was received and what is inside make up what was accepted, in order; an item
that is handed back is the one offered, and no other answer moves an item; nothing is accepted after
the closing, by a first look or by a later one; the end is seen after the closing, when all that was
accepted was received; and the items of each party come out in the order in which it called with
them. -/
theorem Run.first_in_first_out {capacity : Nat} {es : List (Event ω α)} {t : Traffic ω α}
    (h : Run capacity es t) :
    (Line.mk (max capacity 1) [] false).Comes (reactions es) t.channel.line ∧
    Line.ins (reactions es) = Line.outs (reactions es) ++ t.channel.buffer ∧
    (∀ e ∈ es, ∀ refusal x, e.reaction = .handedBack refusal x → e.deed = .offer x) ∧
    (∀ who deed reaction t', t.act? who deed = some (reaction, t') →
      reaction.accepted? = none → reaction.received? = none →
        t'.channel.buffer = t.channel.buffer) ∧
    (∀ before after, es = before ++ after → (∃ e ∈ before, e.deed = .close) →
      Line.ins (reactions after) = []) ∧
    (∀ before e after, es = before ++ e :: after → e.reaction = .ended →
      (∃ c ∈ before, c.deed = .close) ∧
        Line.ins (reactions before) = Line.outs (reactions before)) ∧
    (cameOut es).map Prod.snd = Line.outs (reactions es) ∧
    ∀ w, ofParty w (cameOut es) <+: ofParty w (brought es) ∧
      (ofParty w (brought es)).Sublist (meant w es) := by
  have comes := h.comes
  have all := comes.items
  refine ⟨comes, all, ?_, ?_, ?_, ?_, ?_, ?_⟩
  · intro e he refusal x hr
    obtain ⟨t₁, t₂, acts⟩ := h.acts he
    exact (hr ▸ acts).handedBack
  · intro who deed reaction t' act entered out
    have step := (acts_of_act act).takes.items
    simpa [Line.ins, Line.outs, entered, out, Channel.line] using step.symm
  · rintro before after rfl closing
    rw [reactions, List.map_append] at comes
    obtain ⟨m, first, last⟩ := comes.split
    have closed := first.isClosed_iff.mpr (.inr ((h.closing_iff (by simp)).mpr closing))
    exact (last.sealed closed).2
  · rintro before e after rfl ended
    rw [reactions, List.map_append, List.map_cons, ended, ← List.singleton_append,
      ← List.append_assoc] at comes
    obtain ⟨_, upTo, _⟩ := comes.split
    obtain ⟨m, first, takes⟩ := upTo.last
    cases takes with
    | ended empty closed =>
      have opened : (Channel.new capacity : Channel ω α).line.isClosed ≠ true := by
        simp [Channel.line, Channel.new]
      have closing := (first.isClosed_iff.mp closed).resolve_left opened
      refine ⟨(h.closing_iff (by simp)).mp closing, ?_⟩
      have inside := first.items
      rw [empty, List.append_nil] at inside
      exact inside
  · rw [cameOut, List.map_take, map_brought]
    exact (congrArg _ all).trans List.take_left
  · intro w
    refine ⟨?_, (List.sublist_append_left _ _).trans (h.brought_meant w)⟩
    exact ((List.take_prefix _ _).filter _).map _

/-- One place, taken by an offer while a writer was on its way to it; the second writer goes away
after it was woken, and the first one gets in before the closing. -/
theorem in_order_past_a_stolen_place :
    ∃ (es : List (Event Nat Nat)) (t : Traffic Nat Nat), Run 1 es t ∧
      Line.outs (reactions es) = [10, 40, 20] ∧
      Line.ins (reactions es) = [10, 40, 20] ++ t.channel.buffer ∧
      ofParty 1 (cameOut es) <+: ofParty 1 (brought es) := by
  let deeds : List (Nat × Deed Nat) := [(0, .send 10), (1, .send 20), (2, .send 30), (5, .recv),
    (4, .offer 40), (1, .goOn), (5, .recv), (2, .drop), (1, .goOn), (4, .offer 50), (3, .close),
    (0, .send 60), (5, .recv), (5, .recv)]
  obtain ⟨es, t, run, outs⟩ :=
    exists_run 1 deeds (fun (es, _) => Line.outs (reactions es) = [10, 40, 20]) (by decide)
  simp only [decide_eq_true_eq] at outs
  obtain ⟨_, all, _, _, _, _, _, parties⟩ := run.first_in_first_out
  exact ⟨es, t, run, outs, outs ▸ all, (parties 1).1⟩

end Traffic
end SensorFleet

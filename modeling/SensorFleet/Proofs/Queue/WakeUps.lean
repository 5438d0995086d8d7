import SensorFleet.Proofs.Queue.Traffic
import SensorFleet.Proofs.Queue.Waiting

/-!
No wake-up is lost. Whatever any number of parties do at a channel, those on the books of its signals
are those whose calls wait, and enough of them have been woken: a reader that sleeps over an item, or
a writer over a free place, leaves it to another one that is awake, and nobody sleeps at a closed
channel.
-/
namespace SensorFleet.Traffic
variable {ω α : Type}

def Writers (t : Traffic ω α) (who w : ω) : Prop := w ≠ who ∧ ∃ x, t.standing w = .sending x

def Readers (t : Traffic ω α) (who w : ω) : Prop := w ≠ who ∧ t.standing w = .receiving

def Attended (t : Traffic ω α) : Prop :=
  t.channel.Attended 0 0 (fun w => ∃ x, t.standing w = .sending x)
    fun w => t.standing w = .receiving

theorem attended_new (capacity : Nat) :
    Attended (⟨.new capacity, fun _ => .idle⟩ : Traffic ω α) :=
  (Channel.attended_new capacity).congr (fun _ => by simp) fun _ => by simp

variable {t : Traffic ω α} {who : ω} {q : Channel ω α}

theorem readers_iff (hs : t.standing who ≠ .receiving) (w : ω) :
    t.standing w = .receiving ↔ t.Readers who w := by
  refine ⟨fun hw => ⟨?_, hw⟩, fun hw => hw.2⟩
  rintro rfl
  exact hs hw

theorem writers_iff (hs : ∀ x, t.standing who ≠ .sending x) (w : ω) :
    (∃ x, t.standing w = .sending x) ↔ t.Writers who w := by
  refine ⟨fun hw => ⟨?_, hw⟩, fun hw => hw.2⟩
  rintro rfl
  obtain ⟨x, hx⟩ := hw
  exact hs x hx

/-- A party that does not wait finds the others waiting. -/
theorem Attended.idle (h : t.Attended) (hs : t.standing who = .idle) :
    t.channel.Attended 0 0 (t.Writers who) (t.Readers who) :=
  h.congr (writers_iff (by simp [hs])) (readers_iff (by simp [hs]))

variable [DecidableEq ω]

theorem attended_idle (h : q.Attended 0 0 (t.Writers who) (t.Readers who)) :
    (t.enter who .idle q).Attended := by
  refine h.congr (fun w => ?_) fun w => ?_ <;> by_cases hw : w = who <;>
    simp [enter, Writers, Readers, hw]

theorem attended_sending (x : α)
    (h : q.Attended 0 0 (fun w => w = who ∨ t.Writers who w) (t.Readers who)) :
    (t.enter who (.sending x) q).Attended := by
  refine h.congr (fun w => ?_) fun w => ?_ <;> by_cases hw : w = who <;>
    simp [enter, Writers, Readers, hw]

theorem attended_receiving
    (h : q.Attended 0 0 (t.Writers who) fun w => w = who ∨ t.Readers who w) :
    (t.enter who .receiving q).Attended := by
  refine h.congr (fun w => ?_) fun w => ?_ <;> by_cases hw : w = who <;>
    simp [enter, Writers, Readers, hw]

namespace Attended

theorem writerBack (h : t.Attended) {x : α} {parked : Bool}
    (hs : t.standing who = if parked then .sending x else .idle)
    (woken : parked = true → t.channel.isWriterWoken who = true) :
    (t.channel.writerBack who parked).Attended 0 1 (t.Writers who) (t.Readers who) := by
  cases parked with
  | false => exact (h.idle hs).mono (Nat.le_refl 0) (Nat.zero_le 1)
  | true =>
    refine (Channel.Attended.writerBack h (woken rfl)).congr (fun _ => and_comm) (readers_iff ?_)
    simp [hs]

theorem readerBack (h : t.Attended) {parked : Bool}
    (hs : t.standing who = if parked then .receiving else .idle)
    (woken : parked = true → t.channel.isReaderWoken who = true) :
    (t.channel.readerBack who parked).Attended 1 0 (t.Writers who) (t.Readers who) := by
  cases parked with
  | false => exact (h.idle hs).mono (Nat.zero_le 1) (Nat.le_refl 0)
  | true =>
    refine (Channel.Attended.readerBack h (woken rfl)).congr (writers_iff ?_) fun _ => and_comm
    simp [hs]

end Attended

/-- Whatever a party does leaves enough of the others awake. -/
theorem Acts.attended {deed : Deed α} {next : Reaction α × Traffic ω α}
    (acts : t.Acts who deed next) (h : t.Attended) : next.2.Attended := by
  cases acts with
  | @sends x look parked stands woken sends =>
    have found := h.writerBack stands woken
    cases sends with
    | refused closed => exact attended_idle (found.refuse closed _)
    | waits opened full =>
      exact attended_sending x (found.parkWriter opened full (by simp [Writers]))
    | accepted opened room => exact attended_idle (found.push opened x)
  | @receives look parked stands woken receives =>
    have found := h.readerBack stands woken
    cases receives with
    | item buffer => exact attended_idle (found.take buffer)
    | ended buffer closed => exact attended_idle (found.finish closed)
    | waits buffer opened =>
      exact attended_receiving (found.parkReader opened buffer (by simp [Readers]))
  | @offers x look stands offers =>
    cases offers with
    | closed closed => exact Channel.Attended.setLate h _
    | full opened full => exact h
    | accepted opened room =>
      exact Channel.Attended.push (h.mono (Nat.le_refl 0) (Nat.zero_le 1)) opened x
  | dropsSend stands =>
    refine attended_idle ((Channel.Attended.abandonSend h who).congr (fun _ => and_comm) ?_)
    exact readers_iff (by simp [stands])
  | dropsRecv stands =>
    refine attended_idle ((Channel.Attended.abandonRecv h who).congr ?_ fun _ => and_comm)
    exact writers_iff (by simp [stands])
  | closes => exact Channel.Attended.close h

theorem Run.attended {capacity : Nat} {es : List (Event ω α)} (h : Run capacity es t) :
    t.Attended := by
  induction h with
  | start => exact attended_new capacity
  | next prior act ih => exact (acts_of_act act).attended ih

/-- In every state that any number of parties can bring a channel to: if a reader sleeps over an item,
or a writer over a free place, another one that waits for it was woken and has not gone on yet; and
everybody who waits at a closed channel was woken. -/
theorem Run.no_lost_wakeup {capacity : Nat} {es : List (Event ω α)} (h : Run capacity es t) :
    (∀ who, t.standing who = .receiving → t.channel.isReaderWoken who = false →
      t.channel.buffer ≠ [] →
        ∃ w ≠ who, t.standing w = .receiving ∧ t.channel.isReaderWoken w = true) ∧
    (∀ who x, t.standing who = .sending x → t.channel.isWriterWoken who = false →
      t.channel.length < t.channel.capacity →
        ∃ w ≠ who, (∃ y, t.standing w = .sending y) ∧ t.channel.isWriterWoken w = true) ∧
    (t.channel.isClosed = true → ∀ who,
      (t.standing who = .receiving → t.channel.isReaderWoken who = true) ∧
        ∀ x, t.standing who = .sending x → t.channel.isWriterWoken who = true) := by
  have attended : t.channel.Attended 0 0 (fun w => ∃ x, t.standing w = .sending x)
    fun w => t.standing w = .receiving := h.attended
  refine ⟨?_, ?_, ?_⟩
  · intro who waits asleep filled
    obtain ⟨w, hw, woken⟩ := attended.reader_awake waits filled
    refine ⟨w, ?_, hw, woken⟩
    rintro rfl
    simp [asleep] at woken
  · intro who x waits asleep room
    obtain ⟨w, hw, woken⟩ := attended.writer_awake ⟨x, waits⟩ room
    refine ⟨w, ?_, hw, woken⟩
    rintro rfl
    simp [asleep] at woken
  · intro closed who
    obtain ⟨readers, writers⟩ := attended.woken_of_closed closed who
    exact ⟨readers, fun x hx => writers ⟨x, hx⟩⟩

/-- Three readers wait and an item comes: the first one is woken and goes away, which wakes the second
one, and the third one sleeps over the item. -/
theorem asleep_beside_one_awake :
    ∃ (es : List (Event Nat Nat)) (t : Traffic Nat Nat), Run 2 es t ∧
      t.standing 2 = .receiving ∧ t.channel.buffer = [10] ∧
      ∃ w ≠ 2, t.standing w = .receiving ∧ t.channel.isReaderWoken w = true := by
  let deeds : List (Nat × Deed Nat) :=
    [(0, .recv), (1, .recv), (2, .recv), (3, .send 10), (0, .drop)]
  let isAsleep (next : List (Event Nat Nat) × Traffic Nat Nat) : Bool :=
    next.2.standing 2 = .receiving && !next.2.channel.isReaderWoken 2 &&
      next.2.channel.buffer = [10]
  obtain ⟨es, t, run, asleep⟩ := exists_run 2 deeds isAsleep (by decide)
  simp only [isAsleep, Bool.and_eq_true, decide_eq_true_eq, Bool.not_eq_true'] at asleep
  obtain ⟨⟨waits, unwoken⟩, buffer⟩ := asleep
  obtain ⟨readers, _⟩ := run.no_lost_wakeup
  exact ⟨es, t, run, waits, buffer, readers 2 waits unwoken (by simp [buffer])⟩

end SensorFleet.Traffic

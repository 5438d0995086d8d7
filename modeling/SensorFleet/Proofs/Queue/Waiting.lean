import SensorFleet.Proofs.Queue.Look
import Mathlib.Data.List.Nodup
import Mathlib.Data.List.Perm.Basic
import Mathlib.Order.Nat

/-!
Who waits at a channel. A party that parks stays on the books of a signal, first parked and then
woken, until it goes on or goes away. A channel is alert when enough parties have been woken for
what there is to do: no reader sleeps over an item, no writer over a free place, and nobody at a
closed channel. A party that goes on may use up a notification, and its look makes up for it.
-/
namespace SensorFleet

namespace Signal
variable {ω : Type}

/-- Everyone who parked and has neither gone on nor gone away. -/
def waiting (s : Signal ω) : List ω := s.parked ++ s.woken.map Prod.fst

/-- How many were woken alone and have not gone on. -/
def lone (s : Signal ω) : Nat := s.woken.countP fun w => w.2 = .one

theorem waiting_notifyOne (s : Signal ω) : s.notifyOne.waiting.Perm s.waiting := by
  unfold notifyOne
  cases hp : s.parked with
  | nil => exact .of_eq (by simp [waiting, hp])
  | cons w ws => simp [waiting, hp, List.perm_middle]

theorem waiting_notifyAll (s : Signal ω) : s.notifyAll.waiting.Perm s.waiting :=
  .of_eq (by simp [waiting, notifyAll, Function.comp_def])

theorem waiting_park (s : Signal ω) (who : ω) : (s.park who).waiting.Perm (who :: s.waiting) := by
  simp [waiting, park, List.perm_middle]

theorem lone_notifyOne {s : Signal ω} (h : s.parked ≠ []) : s.notifyOne.lone = s.lone + 1 := by
  unfold notifyOne
  cases hp : s.parked with
  | nil => exact absurd hp h
  | cons w ws => simp [lone]

theorem parked_of_notifyOne {s : Signal ω} (h : s.notifyOne.parked ≠ []) : s.parked ≠ [] := by
  intro hp
  simp [notifyOne, hp] at h

@[simp] theorem parked_notifyAll (s : Signal ω) : s.notifyAll.parked = [] := rfl

theorem parked_notifyOne_of_nil {s : Signal ω} (h : s.parked = []) : s.notifyOne.parked = [] := by
  simp [notifyOne, h]

structure Holds (s : Signal ω) (P : ω → Prop) : Prop where
  nodup : s.waiting.Nodup
  mem : ∀ w, w ∈ s.waiting ↔ P w

namespace Holds
variable {s s' : Signal ω} {P Q : ω → Prop}

theorem congr (h : s.Holds P) (hP : ∀ w, P w ↔ Q w) : s.Holds Q :=
  ⟨h.nodup, fun w => (h.mem w).trans (hP w)⟩

theorem of_perm (h : s.Holds P) (hs : s'.waiting.Perm s.waiting) : s'.Holds P :=
  ⟨hs.nodup_iff.mpr h.nodup, fun w => hs.mem_iff.trans (h.mem w)⟩

theorem notifyOne (h : s.Holds P) : s.notifyOne.Holds P := h.of_perm (waiting_notifyOne s)

theorem notifyAll (h : s.Holds P) : s.notifyAll.Holds P := h.of_perm (waiting_notifyAll s)

theorem park (h : s.Holds P) {who : ω} (hw : ¬P who) :
    (s.park who).Holds fun w => w = who ∨ P w := by
  have hp := waiting_park s who
  refine ⟨hp.nodup_iff.mpr (h.nodup.cons ((h.mem who).not.mpr hw)), fun w => ?_⟩
  rw [hp.mem_iff, List.mem_cons, h.mem]

end Holds

variable [DecidableEq ω]

theorem mem_waiting {s : Signal ω} {who : ω} :
    who ∈ s.waiting ↔ s.isParked who = true ∨ s.isWoken who = true := by
  simp [waiting, isParked, isWoken]

theorem parked_ne_nil {s : Signal ω} {who : ω} (h : s.isParked who = true) : s.parked ≠ [] := by
  intro hp
  simp [isParked, hp] at h

/-- Nobody is parked and woken at once. -/
theorem not_woken_of_parked {s : Signal ω} {who : ω} (h : s.waiting.Nodup) (hp : who ∈ s.parked) :
    s.isWoken who = false := by
  have hd := List.disjoint_of_nodup_append h hp
  simp only [isWoken, List.any_eq_false, decide_eq_true_eq]
  intro w hw he
  exact hd (List.mem_map.mpr ⟨w, hw, he⟩)

theorem waiting_resume {s : Signal ω} {who : ω} (h : s.waiting.Nodup)
    (hw : s.isWoken who = true) : (s.resume who).waiting = s.waiting.filter (· ≠ who) := by
  have hp : who ∉ s.parked := by
    intro hp
    simp [not_woken_of_parked h hp] at hw
  have hf : s.parked.filter (· ≠ who) = s.parked :=
    List.filter_eq_self.mpr fun w hmem => by simpa using ne_of_mem_of_not_mem hmem hp
  simp only [waiting, resume, List.filter_append, hf, List.filter_map, Function.comp_def]

/-- Going on uses up at most one notification. -/
theorem lone_le_resume {s : Signal ω} (h : s.waiting.Nodup) (who : ω) :
    s.lone ≤ (s.resume who).lone + 1 := by
  have hsplit := List.countP_eq_countP_filter_add s.woken (fun w => w.2 = .one) (fun w => w.1 ≠ who)
  have hcount : (s.woken.filter fun w => !decide (w.1 ≠ who)).length ≤ 1 := by
    have hone := List.nodup_iff_count_le_one.mp (List.Nodup.of_append_right h) who
    rw [List.count_eq_countP, List.countP_map] at hone
    rw [← List.countP_eq_length_filter]
    refine (List.countP_congr fun w _ => ?_).trans_le hone
    simp
  have hle := List.countP_le_length (p := fun w : ω × Wake => decide (w.2 = .one))
    (l := s.woken.filter fun w => !decide (w.1 ≠ who))
  simp only [lone, resume]
  omega

/-- Who was woken together with all others goes on without using up a notification. -/
theorem lone_resume_of_not_mem {s : Signal ω} {who : ω} (h : (who, Wake.one) ∉ s.woken) :
    (s.resume who).lone = s.lone := by
  unfold lone resume
  rw [List.countP_filter]
  apply List.countP_congr
  rintro ⟨w, k⟩ hw
  simp only [Bool.and_eq_true, decide_eq_true_eq]
  constructor
  · exact fun hk => hk.1
  · rintro rfl
    exact ⟨rfl, fun he => h (he ▸ hw)⟩

theorem waiting_leave {s : Signal ω} (who : ω) :
    (s.leave who).waiting.Perm (s.waiting.filter (· ≠ who)) := by
  have hgone : ({ s.resume who with parked := s.parked.filter (· ≠ who) } : Signal ω).waiting =
      s.waiting.filter (· ≠ who) := by
    simp only [waiting, resume, List.filter_append, List.filter_map, Function.comp_def]
  unfold leave
  rw [← hgone]
  split
  · exact waiting_notifyOne _
  · rfl

/-- Who goes away leaves nobody parked beside fewer notifications than before. -/
theorem lone_leave {s : Signal ω} (h : s.waiting.Nodup) {who : ω}
    (hp : (s.leave who).parked ≠ []) : s.parked ≠ [] ∧ s.lone ≤ (s.leave who).lone := by
  have hle := lone_le_resume h who
  unfold leave at hp ⊢
  split at hp
  next hone =>
    have hq := parked_of_notifyOne hp
    rw [if_pos hone, lone_notifyOne hq]
    exact ⟨fun he => hq (by simp [he]), hle⟩
  next hone =>
    rw [if_neg hone]
    exact ⟨fun he => hp (by simp [he]), (lone_resume_of_not_mem hone).ge⟩

namespace Holds
variable {s : Signal ω} {P : ω → Prop}

theorem resume (h : s.Holds P) {who : ω} (hw : s.isWoken who = true) :
    (s.resume who).Holds fun w => P w ∧ w ≠ who := by
  have hs := waiting_resume h.nodup hw
  refine ⟨hs ▸ h.nodup.filter _, fun w => ?_⟩
  rw [hs, List.mem_filter, decide_eq_true_eq, h.mem]

theorem leave (h : s.Holds P) (who : ω) : (s.leave who).Holds fun w => P w ∧ w ≠ who := by
  have hp := waiting_leave (s := s) who
  refine ⟨hp.nodup_iff.mpr (h.nodup.filter _), fun w => ?_⟩
  rw [hp.mem_iff, List.mem_filter, decide_eq_true_eq, h.mem]

theorem woken_of_lone (h : s.Holds P) (hl : 0 < s.lone) : ∃ w, P w ∧ s.isWoken w = true := by
  obtain ⟨e, he, _⟩ := List.countP_pos_iff.mp hl
  have hw : s.isWoken e.1 = true := List.any_eq_true.mpr ⟨e, he, by simp⟩
  exact ⟨e.1, (h.mem _).mp (mem_waiting.mpr (.inr hw)), hw⟩

end Holds
end Signal

namespace Channel
variable {ω α : Type}

/-- Too few parties are awake for what there is to do, by at most `r` readers and `w` writers. -/
structure Lacks (q : Channel ω α) (r w : Nat) : Prop where
  room : 0 < q.capacity
  readers : q.readable.parked ≠ [] → q.length ≤ q.readable.lone + r
  writers : q.writable.parked ≠ [] → q.capacity ≤ q.length + q.writable.lone + w
  closed : q.isClosed = true → q.readable.parked = [] ∧ q.writable.parked = []

/-- Enough parties are awake for what there is to do. -/
abbrev Alert (q : Channel ω α) : Prop := q.Lacks 0 0

theorem alert_new (capacity : Nat) : (new capacity : Channel ω α).Alert where
  room := by simp only [new]; omega
  readers := by simp [new]
  writers := by simp [new]
  closed := by simp [new]

namespace Lacks
variable {q : Channel ω α} {r w : Nat}

theorem mono (h : q.Lacks r w) {r' w' : Nat} (hr : r ≤ r') (hw : w ≤ w') : q.Lacks r' w' :=
  ⟨h.room, fun hp => (h.readers hp).trans (Nat.add_le_add_left hr _),
    fun hp => (h.writers hp).trans (Nat.add_le_add_left hw _), h.closed⟩

/-- An item that enters takes up the place for which a writer was to be woken. -/
theorem push (h : q.Lacks r (w + 1)) (opened : q.isClosed = false) (x : α) :
    (q.push x).Lacks r w where
  room := h.room
  readers := by
    intro hp
    have hq := Signal.parked_of_notifyOne hp
    have hl := h.readers hq
    simp only [Channel.push, length, List.length_append, List.length_singleton,
      Signal.lone_notifyOne hq] at hl ⊢
    omega
  writers := by
    intro hp
    have hl := h.writers hp
    simp only [Channel.push, length, List.length_append, List.length_singleton] at hl ⊢
    omega
  closed := by simp [Channel.push, opened]

/-- A writer that parks at a full channel sees that no writer was to be woken. -/
theorem parkWriter (h : q.Lacks r w) (opened : q.isClosed = false) (full : q.capacity ≤ q.length)
    (who : ω) : (q.writerParked who).Lacks r 0 :=
  ⟨h.room, h.readers, fun _ => full.trans (Nat.le_add_right _ _), by simp [writerParked, opened]⟩

/-- A reader that takes an item leaves one less to be woken for, and wakes a writer. -/
theorem take (h : q.Lacks (r + 1) w) {x : α} {rest : List α} (buffer : q.buffer = x :: rest) :
    (q.itemTaken rest).Lacks r w where
  room := h.room
  readers := by
    intro hp
    have hl := h.readers hp
    simp only [itemTaken, length, buffer, List.length_cons] at hl ⊢
    omega
  writers := by
    intro hp
    have hq := Signal.parked_of_notifyOne hp
    have hl := h.writers hq
    simp only [itemTaken, length, buffer, List.length_cons, Signal.lone_notifyOne hq] at hl ⊢
    omega
  closed := fun hc => ⟨(h.closed hc).1, Signal.parked_notifyOne_of_nil (h.closed hc).2⟩

/-- A reader that finds a closed and empty channel passes the news on. -/
theorem finish (h : q.Lacks r w) (closed : q.isClosed = true) :
    q.endSeen.Lacks 0 w := by
  have hr := Signal.parked_notifyOne_of_nil (h.closed closed).1
  exact ⟨h.room, fun hp => absurd hr hp, h.writers, fun _ => ⟨hr, (h.closed closed).2⟩⟩

theorem parkReader (h : q.Lacks r w) (opened : q.isClosed = false) (buffer : q.buffer = [])
    (who : ω) : (q.readerParked who).Lacks 0 w :=
  ⟨h.room, fun _ => by simp [readerParked, length, buffer], h.writers,
    by simp [readerParked, opened]⟩

theorem close (h : q.Lacks r w) : q.close.Alert := by
  have hn (s : Signal ω) : s.notifyAll.notifyOne.parked = [] :=
    Signal.parked_notifyOne_of_nil (Signal.parked_notifyAll s)
  exact ⟨h.room, fun hp => absurd (hn _) hp, fun hp => absurd (hn _) hp, fun _ => ⟨hn _, hn _⟩⟩

theorem setLate (h : q.Lacks r w) (n : Nat) : ({ q with late := n } : Channel ω α).Lacks r w :=
  ⟨h.room, h.readers, h.writers, h.closed⟩

theorem refuse (h : q.Lacks r w) (closed : q.isClosed = true) (late : Nat) :
    ({ q with late := late, writable := q.writable.notifyOne } : Channel ω α).Lacks r 0 := by
  have hw := Signal.parked_notifyOne_of_nil (h.closed closed).2
  exact ⟨h.room, h.readers, fun hp => absurd hw hp, fun _ => ⟨(h.closed closed).1, hw⟩⟩

variable [DecidableEq ω]

theorem writerBack (h : q.Lacks r w) (hw : q.writable.waiting.Nodup) (who : ω) :
    (q.writerBack who true).Lacks r (w + 1) := by
  refine ⟨h.room, h.readers, fun hp => ?_, h.closed⟩
  have hl := h.writers hp
  have hr := Signal.lone_le_resume hw who
  simp only [length, Channel.writerBack, if_true] at hl ⊢
  omega

theorem readerBack (h : q.Lacks r w) (hr : q.readable.waiting.Nodup) (who : ω) :
    (q.readerBack who true).Lacks (r + 1) w := by
  refine ⟨h.room, fun hp => ?_, h.writers, h.closed⟩
  have hl := h.readers hp
  have hr := Signal.lone_le_resume hr who
  simp only [length, Channel.readerBack, if_true] at hl ⊢
  omega

theorem abandonRecv (h : q.Lacks r w) (hr : q.readable.waiting.Nodup) (who : ω) :
    (q.abandonRecv who).Lacks r w := by
  refine ⟨h.room, fun hp => ?_, h.writers, fun hc => ⟨?_, (h.closed hc).2⟩⟩
  · obtain ⟨hq, hl⟩ := Signal.lone_leave hr hp
    exact (h.readers hq).trans (Nat.add_le_add_right hl r)
  · by_contra hp
    exact (Signal.lone_leave hr hp).1 (h.closed hc).1

theorem abandonSend (h : q.Lacks r w) (hw : q.writable.waiting.Nodup) (who : ω) :
    (q.abandonSend who).Lacks r w := by
  refine ⟨h.room, h.readers, fun hp => ?_, fun hc => ⟨(h.closed hc).1, ?_⟩⟩
  · obtain ⟨hq, hl⟩ := Signal.lone_leave hw hp
    have hl₀ := h.writers hq
    simp only [Channel.abandonSend, length] at hl₀ ⊢
    omega
  · by_contra hp
    exact (Signal.lone_leave hw hp).1 (h.closed hc).2

end Lacks

structure Attended (q : Channel ω α) (r w : Nat) (W R : ω → Prop) : Prop where
  lacks : q.Lacks r w
  writers : q.writable.Holds W
  readers : q.readable.Holds R

theorem attended_new (capacity : Nat) :
    (new capacity : Channel ω α).Attended 0 0 (fun _ => False) fun _ => False :=
  ⟨alert_new capacity, ⟨List.nodup_nil, by simp [new, Signal.waiting]⟩,
    ⟨List.nodup_nil, by simp [new, Signal.waiting]⟩⟩

namespace Attended
variable {q : Channel ω α} {r w : Nat} {W R W' R' : ω → Prop}

theorem congr (h : q.Attended r w W R) (hW : ∀ x, W x ↔ W' x) (hR : ∀ x, R x ↔ R' x) :
    q.Attended r w W' R' := ⟨h.lacks, h.writers.congr hW, h.readers.congr hR⟩

theorem mono (h : q.Attended r w W R) {r' w' : Nat} (hr : r ≤ r') (hw : w ≤ w') :
    q.Attended r' w' W R := ⟨h.lacks.mono hr hw, h.writers, h.readers⟩

theorem push (h : q.Attended r (w + 1) W R) (opened : q.isClosed = false) (x : α) :
    (q.push x).Attended r w W R := ⟨h.lacks.push opened x, h.writers, h.readers.notifyOne⟩

theorem parkWriter (h : q.Attended r w W R) (opened : q.isClosed = false)
    (full : q.capacity ≤ q.length) {who : ω} (hw : ¬W who) :
    (q.writerParked who).Attended r 0
      (fun x => x = who ∨ W x) R :=
  ⟨h.lacks.parkWriter opened full who, h.writers.park hw, h.readers⟩

theorem take (h : q.Attended (r + 1) w W R) {x : α} {rest : List α}
    (buffer : q.buffer = x :: rest) : (q.itemTaken rest).Attended r w W R :=
  ⟨h.lacks.take buffer, h.writers.notifyOne, h.readers⟩

theorem finish (h : q.Attended r w W R) (closed : q.isClosed = true) :
    q.endSeen.Attended 0 w W R :=
  ⟨h.lacks.finish closed, h.writers, h.readers.notifyOne⟩

theorem parkReader (h : q.Attended r w W R) (opened : q.isClosed = false) (buffer : q.buffer = [])
    {who : ω} (hr : ¬R who) :
    (q.readerParked who).Attended 0 w W
      fun x => x = who ∨ R x :=
  ⟨h.lacks.parkReader opened buffer who, h.writers, h.readers.park hr⟩

theorem close (h : q.Attended r w W R) : q.close.Attended 0 0 W R :=
  ⟨h.lacks.close, h.writers.notifyAll.notifyOne, h.readers.notifyAll.notifyOne⟩

theorem setLate (h : q.Attended r w W R) (n : Nat) :
    ({ q with late := n } : Channel ω α).Attended r w W R :=
  ⟨h.lacks.setLate n, h.writers, h.readers⟩

theorem refuse (h : q.Attended r w W R) (closed : q.isClosed = true) (late : Nat) :
    ({ q with late := late, writable := q.writable.notifyOne } : Channel ω α).Attended r 0 W R :=
  ⟨h.lacks.refuse closed late, h.writers.notifyOne, h.readers⟩

variable [DecidableEq ω]

theorem writerBack (h : q.Attended r w W R) {who : ω} (woken : q.isWriterWoken who = true) :
    (q.writerBack who true).Attended r (w + 1) (fun x => W x ∧ x ≠ who) R :=
  ⟨h.lacks.writerBack h.writers.nodup who, h.writers.resume woken, h.readers⟩

theorem readerBack (h : q.Attended r w W R) {who : ω} (woken : q.isReaderWoken who = true) :
    (q.readerBack who true).Attended (r + 1) w W fun x => R x ∧ x ≠ who :=
  ⟨h.lacks.readerBack h.readers.nodup who, h.writers, h.readers.resume woken⟩

theorem abandonRecv (h : q.Attended r w W R) (who : ω) :
    (q.abandonRecv who).Attended r w W fun x => R x ∧ x ≠ who :=
  ⟨h.lacks.abandonRecv h.readers.nodup who, h.writers, h.readers.leave who⟩

theorem abandonSend (h : q.Attended r w W R) (who : ω) :
    (q.abandonSend who).Attended r w (fun x => W x ∧ x ≠ who) R :=
  ⟨h.lacks.abandonSend h.writers.nodup who, h.writers.leave who, h.readers⟩

/-- If a reader waits at a channel that is not empty, one of those who wait was woken. -/
theorem reader_awake (h : q.Attended 0 0 W R) {who : ω} (waits : R who) (filled : q.buffer ≠ []) :
    ∃ x, R x ∧ q.isReaderWoken x = true := by
  rcases Signal.mem_waiting.mp ((h.readers.mem who).mpr waits) with parked | woken
  · have hl := h.lacks.readers (Signal.parked_ne_nil parked)
    have hpos : 0 < q.length := List.length_pos_iff.mpr filled
    exact h.readers.woken_of_lone (by omega)
  · exact ⟨who, waits, woken⟩

/-- If a writer waits at a channel that is not full, one of those who wait was woken. -/
theorem writer_awake (h : q.Attended 0 0 W R) {who : ω} (waits : W who)
    (room : q.length < q.capacity) : ∃ x, W x ∧ q.isWriterWoken x = true := by
  rcases Signal.mem_waiting.mp ((h.writers.mem who).mpr waits) with parked | woken
  · have hl := h.lacks.writers (Signal.parked_ne_nil parked)
    exact h.writers.woken_of_lone (by omega)
  · exact ⟨who, waits, woken⟩

/-- Whoever waits at a closed channel was woken. -/
theorem woken_of_closed (h : q.Attended 0 0 W R) (closed : q.isClosed = true) (who : ω) :
    (R who → q.isReaderWoken who = true) ∧ (W who → q.isWriterWoken who = true) := by
  obtain ⟨readers, writers⟩ := h.lacks.closed closed
  constructor
  · intro waits
    refine (Signal.mem_waiting.mp ((h.readers.mem who).mpr waits)).resolve_left fun parked => ?_
    exact Signal.parked_ne_nil parked readers
  · intro waits
    refine (Signal.mem_waiting.mp ((h.writers.mem who).mpr waits)).resolve_left fun parked => ?_
    exact Signal.parked_ne_nil parked writers

end Attended
end Channel
end SensorFleet

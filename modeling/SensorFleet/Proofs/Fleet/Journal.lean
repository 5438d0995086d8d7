import SensorFleet.Fleet.Scene
import SensorFleet.Proofs.Metrics.Outcomes

/-!
Reading the journal of a scene. It tells which readings entered each queue and which were taken
from it; what was taken and what is still inside make up what entered, in order. Two scenes are
alike when they differ in asides only, that is in nothing that the queues, the broker or the
outcomes of publishing depend on.
-/
namespace SensorFleet

namespace Happening

def entered? (stage : Stage) : Happening → Option Reading
  | .entered g r => if g = stage then some r else none
  | _ => none

def taken? (stage : Stage) : Happening → Option Reading
  | .taken g r => if g = stage then some r else none
  | _ => none

/-- The number of readings left inside when the primary queue is closed for the first time. -/
def closing? : Happening → Option Nat
  | .notice (.queueClosed n) => some n
  | _ => none

/-- Whether it neither moves a reading through a queue nor closes the primary queue. -/
def isAside : Happening → Bool
  | .entered _ _ | .taken _ _ | .notice (.queueClosed _) => false
  | _ => true

theorem entered?_of_isAside {w : Happening} (h : w.isAside = true) (stage : Stage) :
    w.entered? stage = none := by
  cases w <;> first | rfl | cases h

theorem taken?_of_isAside {w : Happening} (h : w.isAside = true) (stage : Stage) :
    w.taken? stage = none := by
  cases w <;> first | rfl | cases h

theorem closing?_of_isAside {w : Happening} (h : w.isAside = true) : w.closing? = none := by
  cases w with
  | notice n => cases n <;> first | rfl | cases h
  | _ => rfl

end Happening

namespace Scene

/-- What a scene tells through a reading of its happenings, in order. -/
def history {β : Type} (f : Happening → Option β) (s : Scene) : List β :=
  s.journal.reverse.filterMap fun e => f e.what

def entered (s : Scene) (stage : Stage) : List Reading := s.history (Happening.entered? stage)

def taken (s : Scene) (stage : Stage) : List Reading := s.history (Happening.taken? stage)

/-- The calls that closed the primary queue while it was open. -/
def closings (s : Scene) : List Nat := s.history Happening.closing?

/-- The happenings that are no asides, latest first. -/
def marks (s : Scene) : List Happening :=
  (s.journal.map Entry.what).filter fun w => !w.isAside

theorem history_record {β : Type} (f : Happening → Option β) (s : Scene) (w : Happening) :
    (s.record w).history f = s.history f ++ (f w).toList := by
  simp only [history, record, List.reverse_cons, List.filterMap_append]
  cases h : f w <;> simp [h]

/-- A history that passes over asides depends on the marks only. -/
theorem history_eq_marks {β : Type} {f : Happening → Option β}
    (hf : ∀ w, w.isAside = true → f w = none) (s : Scene) :
    s.history f = s.marks.reverse.filterMap f := by
  unfold history marks
  induction s.journal with
  | nil => rfl
  | cons e es ih =>
    simp only [List.reverse_cons, List.filterMap_append, ih, List.map_cons, List.filter_cons]
    cases he : e.what.isAside with
    | true => simp [hf _ he]
    | false => simp [List.filterMap_cons]

theorem marks_record_of_isAside {s : Scene} {w : Happening} (h : w.isAside = true) :
    (s.record w).marks = s.marks := by
  simp [marks, record, h]

theorem marks_record_congr {s s' : Scene} (h : s'.marks = s.marks) (w : Happening) :
    (s'.record w).marks = (s.record w).marks := by
  simp only [marks] at h
  simp only [marks, record, List.map_cons, List.filter_cons, h]

@[simp] theorem queue_setQueue (s : Scene) (stage : Stage) (q : ReadingQueue) :
    (s.setQueue stage q).queue stage = q := by cases stage <;> rfl

theorem queue_setQueue_of_ne (s : Scene) {stage g : Stage} (q : ReadingQueue) (h : g ≠ stage) :
    (s.setQueue stage q).queue g = s.queue g := by
  cases stage <;> cases g <;> first | rfl | exact absurd rfl h

@[simp] theorem journal_setQueue (s : Scene) (stage : Stage) (q : ReadingQueue) :
    (s.setQueue stage q).journal = s.journal := by cases stage <;> rfl

theorem history_setQueue {β : Type} (f : Happening → Option β) (s : Scene) (stage : Stage)
    (q : ReadingQueue) : (s.setQueue stage q).history f = s.history f := by
  simp only [history, journal_setQueue]

structure Alike (s s' : Scene) : Prop where
  now : s'.now = s.now
  cancelled : s'.cancelled = s.cancelled
  counts : s'.counts = s.counts
  primary : s'.primary = s.primary
  fanout : s'.fanout = s.fanout
  broker : s'.broker = s.broker
  outcomes : ∀ id, s'.metrics.outcomes id = s.metrics.outcomes id
  marks : s'.marks = s.marks

namespace Alike
variable {s s' s'' : Scene}

theorem refl (s : Scene) : s.Alike s := ⟨rfl, rfl, rfl, rfl, rfl, rfl, fun _ => rfl, rfl⟩

theorem trans (h : s.Alike s') (h' : s'.Alike s'') : s.Alike s'' :=
  ⟨h'.now.trans h.now, h'.cancelled.trans h.cancelled, h'.counts.trans h.counts,
    h'.primary.trans h.primary, h'.fanout.trans h.fanout, h'.broker.trans h.broker,
    fun id => (h'.outcomes id).trans (h.outcomes id), h'.marks.trans h.marks⟩

theorem queue (h : s.Alike s') (stage : Stage) : s'.queue stage = s.queue stage := by
  cases stage
  · exact h.primary
  · exact h.fanout

theorem entered (h : s.Alike s') (stage : Stage) : s'.entered stage = s.entered stage := by
  simp only [Scene.entered, history_eq_marks fun _ hw => Happening.entered?_of_isAside hw stage,
    h.marks]

theorem taken (h : s.Alike s') (stage : Stage) : s'.taken stage = s.taken stage := by
  simp only [Scene.taken, history_eq_marks fun _ hw => Happening.taken?_of_isAside hw stage,
    h.marks]

theorem closings (h : s.Alike s') : s'.closings = s.closings := by
  simp only [Scene.closings, history_eq_marks fun _ hw => Happening.closing?_of_isAside hw, h.marks]

theorem record (h : s.Alike s') (w : Happening) : (s.record w).Alike (s'.record w) :=
  ⟨h.now, h.cancelled, h.counts, h.primary, h.fanout, h.broker, h.outcomes,
    marks_record_congr h.marks w⟩

theorem setQueue (h : s.Alike s') (stage : Stage) (q : ReadingQueue) :
    (s.setQueue stage q).Alike (s'.setQueue stage q) := by
  cases stage
  · exact ⟨h.now, h.cancelled, h.counts, rfl, h.fanout, h.broker, h.outcomes, h.marks⟩
  · exact ⟨h.now, h.cancelled, h.counts, h.primary, rfl, h.broker, h.outcomes, h.marks⟩

theorem setBroker (h : s.Alike s') (b : Broker) :
    ({ s with broker := b } : Scene).Alike { s' with broker := b } :=
  ⟨h.now, h.cancelled, h.counts, h.primary, h.fanout, rfl, h.outcomes, h.marks⟩

end Alike

theorem count_eq (s : Scene) (o : Observation) :
    s.count o = { s with metrics := if s.counts then s.metrics.note o else s.metrics } := by
  unfold count
  split <;> rfl

theorem outcomes_count (s : Scene) (o : Observation) (id : ProducerId) :
    (s.count o).metrics.outcomes id =
      s.metrics.outcomes id + if s.counts then o.settles id else 0 := by
  rw [count_eq]
  cases s.counts
  · rfl
  · exact Metrics.outcomes_note _ _ _

theorem Alike.count {s s' : Scene} (h : s.Alike s') (o : Observation) :
    (s.count o).Alike (s'.count o) := by
  have ho : ∀ id, (s'.count o).metrics.outcomes id = (s.count o).metrics.outcomes id := by
    intro id
    rw [outcomes_count, outcomes_count, h.counts, h.outcomes]
  rw [count_eq, count_eq] at ho ⊢
  exact ⟨h.now, h.cancelled, h.counts, h.primary, h.fanout, h.broker, ho, h.marks⟩

theorem alike_record {s : Scene} {w : Happening} (h : w.isAside = true) : s.Alike (s.record w) :=
  ⟨rfl, rfl, rfl, rfl, rfl, rfl, fun _ => rfl, marks_record_of_isAside h⟩

theorem alike_log {s : Scene} {n : Notice} (h : (Happening.notice n).isAside = true) :
    s.Alike (s.log n) := alike_record h

theorem alike_count {s : Scene} {o : Observation} (h : ∀ id, o.settles id = 0) :
    s.Alike (s.count o) := by
  have ho := outcomes_count s o
  simp only [h, ite_self, Nat.add_zero] at ho
  rw [count_eq] at ho ⊢
  exact ⟨rfl, rfl, rfl, rfl, rfl, rfl, ho, rfl⟩

theorem alike_readClock (s : Scene) : s.Alike s.readClock.2 :=
  ⟨rfl, rfl, rfl, rfl, rfl, rfl, fun _ => rfl, rfl⟩

theorem alike_makeSource (s : Scene) (id : ProducerId) : s.Alike (s.makeSource id).2 :=
  ⟨rfl, rfl, rfl, rfl, rfl, rfl, fun _ => rfl, marks_record_of_isAside rfl⟩

theorem alike_logPath (id : ProducerId) (path : List SlotState) (s : Scene) (source : SlotState) :
    s.Alike (s.logPath id source path) := by
  induction path generalizing s source with
  | nil => exact .refl s
  | cons target rest ih => exact (alike_log rfl).trans (ih _ _)

structure Steady (s s' : Scene) : Prop where
  cancelled : s'.cancelled = s.cancelled
  counts : s'.counts = s.counts
  isClosed : s'.primary.isClosed = s.primary.isClosed
  late : s'.primary.late = s.primary.late
  closings : s'.closings = s.closings

theorem Alike.steady {s s' : Scene} (h : s.Alike s') : s.Steady s' :=
  ⟨h.cancelled, h.counts, by rw [h.primary], by rw [h.primary], h.closings⟩

namespace Steady
variable {s s' s'' : Scene}

theorem refl (s : Scene) : s.Steady s := ⟨rfl, rfl, rfl, rfl, rfl⟩

theorem trans (h : s.Steady s') (h' : s'.Steady s'') : s.Steady s'' :=
  ⟨h'.cancelled.trans h.cancelled, h'.counts.trans h.counts, h'.isClosed.trans h.isClosed,
    h'.late.trans h.late, h'.closings.trans h.closings⟩

theorem alike (h : s.Steady s') (ha : s'.Alike s'') : s.Steady s'' := h.trans ha.steady

theorem setPrimary (h : s.Steady s') {q : ReadingQueue} (hc : q.isClosed = s'.primary.isClosed)
    (hl : q.late = s'.primary.late) : s.Steady (s'.setQueue .primary q) :=
  h.trans ⟨rfl, rfl, hc, hl, rfl⟩

theorem setFanout (h : s.Steady s') (q : ReadingQueue) : s.Steady (s'.setQueue .fanout q) :=
  h.trans ⟨rfl, rfl, rfl, rfl, rfl⟩

theorem setQueue (h : s.Steady s') {stage : Stage} {q : ReadingQueue}
    (hc : q.isClosed = (s'.queue stage).isClosed) (hl : q.late = (s'.queue stage).late) :
    s.Steady (s'.setQueue stage q) := by
  cases stage with
  | primary => exact h.setPrimary hc hl
  | fanout => exact h.setFanout q

theorem record (h : s.Steady s') {w : Happening} (hw : w.closing? = none) :
    s.Steady (s'.record w) :=
  h.trans ⟨rfl, rfl, rfl, rfl, by simp [Scene.closings, history_record, hw]⟩

theorem count (h : s.Steady s') (o : Observation) : s.Steady (s'.count o) :=
  h.trans (by rw [count_eq]; exact ⟨rfl, rfl, rfl, rfl, rfl⟩)

theorem setBroker (h : s.Steady s') (b : Broker) : s.Steady { s' with broker := b } :=
  h.trans ⟨rfl, rfl, rfl, rfl, rfl⟩

theorem abandonRecv (h : s.Steady s') (stage : Stage) (who : Party) (parked : Bool) :
    s.Steady (s'.abandonRecv stage who parked) := by
  unfold Scene.abandonRecv
  split
  · exact h.setQueue rfl rfl
  · exact h

end Steady

/-- What was taken from a queue and what it holds make up what entered it, in order. -/
def Flows (s : Scene) : Prop :=
  ∀ stage, s.taken stage ++ (s.queue stage).buffer = s.entered stage

namespace Flows
variable {s s' : Scene}

theorem alike (h : s.Flows) (ha : s.Alike s') : s'.Flows := by
  intro stage
  rw [ha.taken, ha.entered, ha.queue]
  exact h stage

theorem setQueue (h : s.Flows) {stage : Stage} {q : ReadingQueue}
    (hq : q.buffer = (s.queue stage).buffer) : (s.setQueue stage q).Flows := by
  intro g
  have hg := h g
  simp only [taken, entered, history_setQueue] at hg ⊢
  by_cases he : g = stage
  · subst he
    rwa [queue_setQueue, hq]
  · rwa [queue_setQueue_of_ne s q he]

theorem enter (h : s.Flows) {stage : Stage} {q : ReadingQueue} {r : Reading}
    (hq : q.buffer = (s.queue stage).buffer ++ [r]) :
    ((s.setQueue stage q).record (.entered stage r)).Flows := by
  intro g
  have hg := h g
  simp only [taken, entered, history_record, history_setQueue] at hg ⊢
  change _ ++ ((s.setQueue stage q).queue g).buffer = _
  by_cases he : g = stage
  · subst he
    simp [queue_setQueue, hq, Happening.entered?, Happening.taken?, ← hg]
  · simpa [queue_setQueue_of_ne s q he, Happening.entered?, Happening.taken?, Ne.symm he] using hg

theorem take (h : s.Flows) {stage : Stage} {q : ReadingQueue} {r : Reading}
    (hq : (s.queue stage).buffer = r :: q.buffer) :
    ((s.setQueue stage q).record (.taken stage r)).Flows := by
  intro g
  have hg := h g
  simp only [taken, entered, history_record, history_setQueue] at hg ⊢
  change _ ++ ((s.setQueue stage q).queue g).buffer = _
  by_cases he : g = stage
  · subst he
    simpa [queue_setQueue, hq, Happening.entered?, Happening.taken?] using hg
  · simpa [queue_setQueue_of_ne s q he, Happening.entered?, Happening.taken?, Ne.symm he] using hg

end Flows
end Scene
end SensorFleet

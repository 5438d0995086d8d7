import Mathlib.Data.List.Count
import SensorFleet.Proofs.Slot.Calls

/-!
Any sequence of calls on a fresh slot, legal ones and others. The states that the slot passes
through are a path of the life cycle, its faults and its number of runs are those that the answers
tell of, and a call that is refused leaves it as it was. Stopping always succeeds, and a stopped slot
stays as it is.
-/
namespace SensorFleet

/-- A slot with what happened to it: the states it passed through, the one it began in first, and
the calls with their refusals. -/
structure SlotHistory where
  slot : Slot
  path : List SlotState
  answers : List (SlotCall × Option SlotError) := []

namespace SlotHistory

def fresh (id : ProducerId) : SlotHistory := { slot := { id := id }, path := [.starting] }

def call (h : SlotHistory) (c : SlotCall) : SlotHistory :=
  let t := c.perform h.slot
  { slot := t.slot, path := h.path ++ t.passed, answers := h.answers ++ [(c, t.refusal)] }

def after (id : ProducerId) (calls : List SlotCall) : SlotHistory := calls.foldl call (fresh id)

theorem after_append (id : ProducerId) (calls more : List SlotCall) :
    after id (calls ++ more) = more.foldl call (after id calls) := List.foldl_append

def starts (answers : List (SlotCall × Option SlotError)) : Nat := answers.count (.startRun, none)

/-- The fault that an answer tells of, in a slot that had started some runs. -/
def faultOf (id : ProducerId) (runs : Nat) : SlotCall × Option SlotError → List ProducerFault
  | (.recordFault message, none) => [⟨id, runs, message⟩]
  | _ => []

/-- The faults that the answers tell of, each with the number of runs that were started before. -/
def faults (id : ProducerId) : Nat → List (SlotCall × Option SlotError) → List ProducerFault
  | _, [] => []
  | runs, a :: rest => faultOf id runs a ++ faults id (runs + starts [a]) rest

/-- What the calls so far leave behind: a path of the life cycle from the start to where the slot
is, and the books as the answers have them. -/
structure Lawful (h : SlotHistory) (id : ProducerId) : Prop where
  own : h.slot.id = id
  path : h.path.IsChain fun a b => a.canMoveTo b = true
  first : h.path.head? = some .starting
  last : h.path.getLast? = some h.slot.state
  attempts : h.slot.attempts = starts h.answers
  faults : h.slot.faults = faults id 0 h.answers

section Laws
variable {id : ProducerId} {h : SlotHistory}

theorem fresh_lawful (id : ProducerId) : (fresh id).Lawful id :=
  ⟨rfl, .singleton _, rfl, rfl, rfl, rfl⟩

theorem faults_append (id : ProducerId) (runs : Nat) (as bs : List (SlotCall × Option SlotError)) :
    faults id runs (as ++ bs) = faults id runs as ++ faults id (runs + starts as) bs := by
  induction as generalizing runs with
  | nil => rfl
  | cons a as ih =>
    have split : starts (a :: as) = starts [a] + starts as := by
      rw [← List.singleton_append, starts, List.count_append]
      rfl
    rw [List.cons_append, faults, faults, ih, split, List.append_assoc, Nat.add_assoc]

theorem makes_books {s : Slot} {c : SlotCall} {t : SlotTurn} (makes : c.Makes s t) :
    t.slot.id = s.id ∧ t.slot.attempts = s.attempts + starts [(c, t.refusal)] ∧
      t.slot.faults = s.faults ++ faultOf s.id s.attempts (c, t.refusal) := by
  cases makes with
  | refused => cases c <;> exact ⟨rfl, rfl, (List.append_nil _).symm⟩
  | moved | started | stopped => exact ⟨rfl, rfl, (List.append_nil _).symm⟩
  | faulted => exact ⟨rfl, rfl, rfl⟩

theorem call_lawful (lawful : h.Lawful id) (c : SlotCall) : (h.call c).Lawful id := by
  have makes := SlotCall.perform_makes h.slot c
  obtain ⟨onward, arrived⟩ := makes.path
  obtain ⟨kept, counted, noted⟩ := makes_books makes
  obtain ⟨earlier, split⟩ := List.getLast?_eq_some_iff.mp lawful.last
  have joined : h.path ++ (c.perform h.slot).passed =
      earlier ++ h.slot.state :: (c.perform h.slot).passed := by
    rw [split, List.append_assoc, List.singleton_append]
  exact {
    own := kept.trans lawful.own
    path := by
      rw [call, joined]
      exact List.isChain_split.mpr ⟨split ▸ lawful.path, onward⟩
    first := by
      rw [call, List.head?_append, lawful.first, Option.some_or]
    last := by
      rw [call, joined, List.getLast?_append, arrived, Option.some_or]
    attempts := by
      rw [call, counted, lawful.attempts, starts, starts, starts, List.count_append]
    faults := by
      rw [call, noted, faults_append, ← lawful.faults, lawful.own, lawful.attempts, Nat.zero_add,
        faults, faults, List.append_nil] }

theorem foldl_lawful (lawful : h.Lawful id) (calls : List SlotCall) :
    (calls.foldl call h).Lawful id := by
  induction calls generalizing h with
  | nil => exact lawful
  | cons c calls ih => exact ih (call_lawful lawful c)

theorem foldl_grows (h : SlotHistory) (calls : List SlotCall) :
    h.slot.faults <+: (calls.foldl call h).slot.faults := by
  induction calls generalizing h with
  | nil => exact List.prefix_rfl
  | cons c calls ih => exact (SlotCall.perform_makes h.slot c).grows.trans (ih (h.call c))

/-- A stopped slot never changes again. -/
theorem foldl_final (stopped : h.slot.state = .stopped) (calls : List SlotCall) :
    (calls.foldl call h).slot = h.slot := by
  induction calls generalizing h with
  | nil => rfl
  | cons c calls ih =>
    have same : (h.call c).slot = h.slot := (SlotCall.perform_makes h.slot c).final stopped
    exact (ih (same ▸ stopped)).trans same

theorem answers_calls (h : SlotHistory) (calls : List SlotCall) :
    (calls.foldl call h).answers.map Prod.fst = h.answers.map Prod.fst ++ calls := by
  induction calls generalizing h with
  | nil => rw [List.foldl_nil, List.append_nil]
  | cons c calls ih => rw [List.foldl_cons, ih, call, List.map_append, List.append_assoc]; rfl

theorem starts_le (id : ProducerId) (calls : List SlotCall) :
    starts (after id calls).answers ≤ calls.count .startRun := by
  have most : starts (after id calls).answers ≤
      ((after id calls).answers.map Prod.fst).count .startRun :=
    @List.count_le_count_map _ _ _ _ _ _ _ Prod.fst (SlotCall.startRun, none)
  rwa [after, answers_calls, fresh, List.map_nil, List.nil_append] at most

end Laws

structure Contract (id : ProducerId) (calls : List SlotCall) : Prop where
  lawful : (after id calls).Lawful id
  /-- The number of runs fits its word. -/
  fits : (after id calls).slot.attempts < UInt32.size
  answers : ∀ c : SlotCall,
    (c.perform (after id calls).slot).answer = c.apply (after id calls).slot
  unchanged : ∀ (c : SlotCall) (e : SlotError), (c.perform (after id calls).slot).refusal = some e →
    (c.perform (after id calls).slot).slot = (after id calls).slot
  stops : (SlotCall.stop.perform (after id calls).slot).refusal = none
  ended : ∀ more, (after id (calls ++ .stop :: more)).slot =
    { (after id calls).slot with state := .stopped }
  final : (after id calls).slot.state = .stopped →
    ∀ more, (after id (calls ++ more)).slot = (after id calls).slot
  grows : ∀ more, (after id calls).slot.faults <+: (after id (calls ++ more)).slot.faults

/-- After any calls with fewer than `2 ^ 32` starts among them the life cycle and the books of the
slot are kept, refused calls have done nothing, and the end is always reached and never left. -/
theorem contract_kept (id : ProducerId) {calls : List SlotCall}
    (few : calls.count .startRun < UInt32.size) : Contract id calls := by
  have lawful := foldl_lawful (fresh_lawful id) calls
  have stop := SlotCall.perform_stop (after id calls).slot
  exact {
    lawful := lawful
    fits := by
      have most := starts_le id calls
      have counted := lawful.attempts
      rw [← after] at counted
      omega
    answers := SlotCall.perform_answer _
    unchanged := fun c _ refused => (SlotCall.perform_makes _ c).unchanged refused
    stops := by rw [stop]
    ended := fun more => by
      have now : ((after id calls).call .stop).slot =
          { (after id calls).slot with state := .stopped } := by rw [call, stop]
      rw [after_append, List.foldl_cons, foldl_final (by rw [now]), now]
    final := fun stopped more => by rw [after_append, foldl_final stopped]
    grows := fun more => by
      rw [after_append]
      exact foldl_grows _ more }

/-- A slot that is started, faults, starts again, is stopped and refuses another start. -/
theorem contract_kept_over_two_runs :
    [SlotCall.startRun, .recordFault "boom", .startRun, .moveTo .starting, .startRun, .stop,
      .startRun].count .startRun < UInt32.size ∧
    Contract 7 [.startRun, .recordFault "boom", .startRun, .moveTo .starting, .startRun, .stop,
      .startRun] := by
  have few : [SlotCall.startRun, .recordFault "boom", .startRun, .moveTo .starting, .startRun,
      .stop, .startRun].count .startRun < UInt32.size := by decide
  exact ⟨few, contract_kept 7 few⟩

/-- The faults and the number of runs after these calls. -/
example : (after 7 [.startRun, .recordFault "boom", .startRun, .moveTo .starting, .startRun, .stop,
    .startRun]).slot = ⟨7, .stopped, 2, [⟨7, 1, "boom"⟩]⟩ := by decide

end SlotHistory

end SensorFleet

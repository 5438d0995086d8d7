import Mathlib.Data.List.Chain
import SensorFleet.Slot.Slot

/-!
Calls on a slot, made in place: a call makes its moves one after another and stops at the first one
that is refused, and what it did until then stays done. Such a call answers as the function of slots
does, and one that is refused has done nothing: bringing a slot to its end takes two moves, of which
the second is never refused after the first.
-/
namespace SensorFleet

namespace Slot

theorem moveTo_ok {s s' : Slot} {next : SlotState} (h : s.moveTo next = .ok s') :
    s' = { s with state := next } := by
  unfold moveTo at h
  split at h
  · injection h with h
    exact h.symm
  · cases h

/-- A slot can be stopped from any state. -/
theorem stop_eq (s : Slot) : s.stop = .ok { s with state := .stopped } := by
  obtain ⟨id, state, attempts, faults⟩ := s
  cases state <;> rfl

theorem startRun_id {s s' : Slot} (h : s.startRun = .ok s') : s'.id = s.id := by
  unfold startRun at h
  cases hm : s.moveTo .running with
  | error e => simp [hm, bind, Except.bind] at h
  | ok s₁ =>
    simp only [hm, bind, Except.bind, pure, Except.pure, Except.ok.injEq] at h
    rw [← h, moveTo_ok hm]

theorem recordFault_id {s s' : Slot} {message : String} (h : s.recordFault message = .ok s') :
    s'.id = s.id := by
  unfold recordFault at h
  cases hm : s.moveTo .faulted with
  | error e => simp [hm, bind, Except.bind] at h
  | ok s₁ =>
    simp only [hm, bind, Except.bind, pure, Except.pure, Except.ok.injEq] at h
    rw [← h, moveTo_ok hm]

end Slot

/-- The way to the end is one of the life cycle. -/
theorem SlotState.pathToStop_lawful (x : SlotState) :
    (x :: x.pathToStop).IsChain (fun a b => a.canMoveTo b = true) ∧
      (x :: x.pathToStop).getLast? = some .stopped := by
  cases x <;> decide

inductive SlotCall
  | moveTo (next : SlotState)
  | startRun
  | recordFault (message : String)
  | stop
deriving DecidableEq, Repr

structure SlotTurn where
  slot : Slot
  passed : List SlotState := []
  refusal : Option SlotError := none

def SlotTurn.answer (t : SlotTurn) : Except SlotError Slot :=
  match t.refusal with
  | none => .ok t.slot
  | some e => .error e

/-- Makes moves in place until one is refused. -/
def Slot.walk : List SlotState → Slot → SlotTurn
  | [], s => { slot := s }
  | next :: path, s =>
    match s.moveTo next with
    | .error e => { slot := s, refusal := some e }
    | .ok s => let t := walk path s; { t with passed := next :: t.passed }

namespace SlotCall

def apply (s : Slot) : SlotCall → Except SlotError Slot
  | moveTo next => s.moveTo next
  | startRun => s.startRun
  | recordFault message => s.recordFault message
  | stop => s.stop

def moves (s : Slot) : SlotCall → List SlotState
  | moveTo next => [next]
  | startRun => [.running]
  | recordFault _ => [.faulted]
  | stop => s.state.pathToStop

/-- What a call writes down once its moves are made. -/
def enter (s : Slot) : SlotCall → Slot
  | moveTo _ | stop => s
  | startRun => { s with attempts := s.attempts + 1 }
  | recordFault message => { s with faults := s.faults ++ [⟨s.id, s.attempts, message⟩] }

def perform (s : Slot) (c : SlotCall) : SlotTurn :=
  let t := s.walk (c.moves s)
  match t.refusal with
  | none => { t with slot := c.enter t.slot }
  | some _ => t

/-- All that a call can come to. Only a call of one move is ever refused. -/
inductive Makes (s : Slot) : SlotCall → SlotTurn → Prop
  | refused {c : SlotCall} {next : SlotState} (only : c.moves s = [next])
      (forbidden : s.state.canMoveTo next = false) :
      Makes s c ⟨s, [], some ⟨s.id, s.state, next⟩⟩
  | moved {next : SlotState} (allowed : s.state.canMoveTo next = true) :
      Makes s (.moveTo next) ⟨{ s with state := next }, [next], none⟩
  | started (allowed : s.state.canMoveTo .running = true) :
      Makes s .startRun
        ⟨{ s with state := .running, attempts := s.attempts + 1 }, [.running], none⟩
  | faulted {message : String} (allowed : s.state.canMoveTo .faulted = true) :
      Makes s (.recordFault message)
        ⟨{ s with state := .faulted, faults := s.faults ++ [⟨s.id, s.attempts, message⟩] },
          [.faulted], none⟩
  | stopped : Makes s .stop ⟨{ s with state := .stopped }, s.state.pathToStop, none⟩

section Perform
variable (s : Slot)

theorem perform_single {c : SlotCall} {next : SlotState} (only : c.moves s = [next]) :
    c.perform s = if s.state.canMoveTo next then ⟨c.enter { s with state := next }, [next], none⟩
      else ⟨s, [], some ⟨s.id, s.state, next⟩⟩ := by
  simp only [perform, only, Slot.walk, Slot.moveTo]
  by_cases allowed : s.state.canMoveTo next
  · rw [if_pos allowed, if_pos allowed]
  · rw [if_neg allowed, if_neg allowed]

theorem perform_stop :
    stop.perform s = ⟨{ s with state := .stopped }, s.state.pathToStop, none⟩ := by
  obtain ⟨id, state, attempts, faults⟩ := s
  cases state <;> rfl

theorem perform_makes (c : SlotCall) : c.Makes s (c.perform s) := by
  cases c with
  | moveTo next =>
    rw [perform_single s rfl]
    split
    next allowed => exact .moved allowed
    next forbidden => exact .refused rfl (Bool.not_eq_true _ ▸ forbidden)
  | startRun =>
    rw [perform_single s rfl]
    split
    next allowed => exact .started allowed
    next forbidden => exact .refused rfl (Bool.not_eq_true _ ▸ forbidden)
  | recordFault message =>
    rw [perform_single s rfl]
    split
    next allowed => exact .faulted allowed
    next forbidden => exact .refused rfl (Bool.not_eq_true _ ▸ forbidden)
  | stop =>
    rw [perform_stop]
    exact .stopped

/-- A call in place answers as the function of slots does. -/
theorem perform_answer (c : SlotCall) : (c.perform s).answer = c.apply s := by
  cases c with
  | moveTo next =>
    rw [perform_single s rfl, apply, Slot.moveTo]
    split <;> rfl
  | startRun =>
    rw [perform_single s rfl, apply, Slot.startRun, Slot.moveTo]
    split <;> rfl
  | recordFault message =>
    rw [perform_single s rfl, apply, Slot.recordFault, Slot.moveTo]
    split <;> rfl
  | stop =>
    rw [perform_stop, apply, Slot.stop_eq]
    rfl

end Perform

namespace Makes
variable {s : Slot} {c : SlotCall} {t : SlotTurn}

/-- A refused call changes nothing. -/
theorem unchanged (h : c.Makes s t) {e : SlotError} (refused : t.refusal = some e) :
    t.slot = s := by
  cases h with
  | refused => rfl
  | moved | started | faulted | stopped => cases refused

theorem path (h : c.Makes s t) :
    (s.state :: t.passed).IsChain (fun a b => a.canMoveTo b = true) ∧
      (s.state :: t.passed).getLast? = some t.slot.state := by
  cases h with
  | refused => exact ⟨.singleton _, rfl⟩
  | moved allowed | started allowed | faulted allowed =>
    exact ⟨List.isChain_pair.mpr allowed, rfl⟩
  | stopped => exact s.state.pathToStop_lawful

theorem final (h : c.Makes s t) (stopped : s.state = .stopped) : t.slot = s := by
  have forbidden (next : SlotState) : s.state.canMoveTo next = false := by
    rw [stopped]
    rfl
  cases h with
  | refused => rfl
  | moved allowed | started allowed | faulted allowed =>
    exact absurd allowed (by simp [forbidden])
  | stopped => rw [← stopped]

theorem grows (h : c.Makes s t) : s.faults <+: t.slot.faults := by
  cases h with
  | refused | moved | started | stopped => exact List.prefix_rfl
  | faulted => exact List.prefix_append _ _

end Makes

end SlotCall

end SensorFleet

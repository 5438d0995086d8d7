import Mathlib.Logic.Function.Basic
import SensorFleet.Proofs.Broker.Answers

/-!
Traffic at a broker. Any number of publishes go on at once: each of them starts, waits if it has to,
and is answered or is dropped while it waits. In between switches are turned, the broker is closed
and time passes, all of it in any order. What a publish does between two waits is one deed.
-/
namespace SensorFleet

inductive PublishStage
  | ahead
  | waiting (pending : PendingPublish)
  | finished
deriving DecidableEq, Repr

structure BrokerTraffic (ω : Type) where
  broker : Broker
  now : Nat := 0
  stage : ω → PublishStage := fun _ => .ahead

namespace BrokerTraffic

inductive Deed (ω : Type)
  | start (id : ω)
  /-- A publish goes on when its alarm has rung. -/
  | goOn (id : ω)
  | drop (id : ω)
  | turn (switch : BrokerSwitch)
  | close
  | pass (length : Nat)
deriving DecidableEq, Repr

def Deed.publish? {ω : Type} : Deed ω → Option ω
  | .start id | .goOn id | .drop id => some id
  | .turn _ | .close | .pass _ => none

inductive Fate
  | answered (a : Answer)
  | dropped
deriving DecidableEq, Repr

inductive Reaction
  | ended (fate : Fate)
  | waits
  | nothing
deriving DecidableEq, Repr

variable {ω : Type}

/-- A new broker in memory. One that is to be cut off from the start has its connection switched off
first of all. -/
def new (records : Bool) : BrokerTraffic ω :=
  { broker := { kind := if records then .recording else .loopback } }

structure Sound (letter : ω → Message) (t : BrokerTraffic ω) : Prop where
  inMemory : t.broker.isScripted = false
  brings : ∀ id pending, t.stage id = .waiting pending → pending.remainder = .deliver (letter id)

theorem new_sound (letter : ω → Message) (records : Bool) : (new records).Sound letter := by
  refine ⟨?_, nofun⟩
  cases records <;> rfl

variable [DecidableEq ω]

def enter (t : BrokerTraffic ω) (id : ω) (stage : PublishStage) (b : Broker) : BrokerTraffic ω :=
  { t with broker := b, stage := Function.update t.stage id stage }

@[simp] theorem enter_broker (t : BrokerTraffic ω) (id : ω) (stage : PublishStage) (b : Broker) :
    (t.enter id stage b).broker = b := rfl

@[simp] theorem enter_stage (t : BrokerTraffic ω) (id : ω) (stage : PublishStage) (b : Broker) :
    (t.enter id stage b).stage id = stage := by
  simp [enter]

theorem enter_stage_of_ne (t : BrokerTraffic ω) {id other : ω} (ne : other ≠ id)
    (stage : PublishStage) (b : Broker) : (t.enter id stage b).stage other = t.stage other := by
  simp [enter, ne]

def afterAnswer (t : BrokerTraffic ω) (id : ω) : Answer × Broker → Reaction × BrokerTraffic ω
  | (a, b) => (.ended (.answered a), t.enter id .finished b)

def afterStart (t : BrokerTraffic ω) (id : ω) : Broker.Start × Broker → Reaction × BrokerTraffic ω
  | (.done a, b) => t.afterAnswer id (a, b)
  | (.waiting pending, b) => (.waits, t.enter id (.waiting pending) b)

/-- What comes of a deed, if it can be done now; `letter` tells what each publish brings. -/
def act? (letter : ω → Message) (t : BrokerTraffic ω) (deed : Deed ω) :
    Option (Reaction × BrokerTraffic ω) :=
  match deed with
  | .start id =>
    match t.stage id with
    | .ahead => some (t.afterStart id (t.broker.start t.now (letter id)))
    | _ => none
  | .goOn id =>
    match t.stage id with
    | .waiting pending =>
      if Instant.hasRung pending.alarm t.now then
        some (t.afterAnswer id (t.broker.finish pending.remainder))
      else none
    | _ => none
  | .drop id =>
    match t.stage id with
    | .waiting _ => some (.ended .dropped, t.enter id .finished t.broker)
    | _ => none
  | .turn switch => some (.nothing, { t with broker := t.broker.turn switch })
  | .close => some (.nothing, { t with broker := t.broker.close.2 })
  | .pass length => some (.nothing, { t with now := t.now + length })

structure Event (ω : Type) where
  deed : Deed ω
  reaction : Reaction
deriving DecidableEq, Repr

/-- What can happen from a state on, in order, and what it leads to. -/
inductive Run (letter : ω → Message) : BrokerTraffic ω → List (Event ω) → BrokerTraffic ω → Prop
  | rest {t : BrokerTraffic ω} : Run letter t [] t
  | next {t t₁ t' : BrokerTraffic ω} {deed : Deed ω} {reaction : Reaction} {es : List (Event ω)}
      (act : t.act? letter deed = some (reaction, t₁)) (after : Run letter t₁ es t') :
      Run letter t (⟨deed, reaction⟩ :: es) t'

/-- The events that come of a list of deeds, if each can be done in its turn. -/
def play (letter : ω → Message) (t : BrokerTraffic ω) :
    List (Deed ω) → Option (List (Event ω) × BrokerTraffic ω)
  | [] => some ([], t)
  | deed :: rest =>
    (t.act? letter deed).bind fun (reaction, t₁) =>
      (play letter t₁ rest).map fun (es, t') => (⟨deed, reaction⟩ :: es, t')

variable {letter : ω → Message} {t t₁ t' : BrokerTraffic ω} {deed : Deed ω}
  {next : Reaction × BrokerTraffic ω} {es before after : List (Event ω)} {id : ω}

theorem run_of_play {deeds : List (Deed ω)} (h : t.play letter deeds = some (es, t')) :
    Run letter t es t' := by
  induction deeds generalizing t es with
  | nil =>
    cases h
    exact .rest
  | cons deed rest ih =>
    obtain ⟨⟨reaction, t₁⟩, act, h⟩ := Option.bind_eq_some_iff.mp h
    obtain ⟨⟨es', t''⟩, played, same⟩ := Option.map_eq_some_iff.mp h
    cases same
    exact .next act (ih played)

theorem exists_run (letter : ω → Message) (t : BrokerTraffic ω) (deeds : List (Deed ω))
    (test : List (Event ω) × BrokerTraffic ω → Bool)
    (passes : (t.play letter deeds).any test = true) :
    ∃ es t', Run letter t es t' ∧ test (es, t') = true := by
  obtain ⟨⟨es, t'⟩, played, passed⟩ := (Option.any_eq_true _ _).mp passes
  exact ⟨es, t', run_of_play played, passed⟩

theorem Run.split (h : Run letter t (before ++ after) t') :
    ∃ m, Run letter t before m ∧ Run letter m after t' := by
  induction before generalizing t with
  | nil => exact ⟨t, .rest, h⟩
  | cons e before ih =>
    cases h with
    | next act rest =>
      obtain ⟨m, first, last⟩ := ih rest
      exact ⟨m, .next act first, last⟩

/-! ## What a deed comes to -/

inductive Acts (letter : ω → Message) (t : BrokerTraffic ω) :
    Deed ω → Reaction × BrokerTraffic ω → Prop
  | answers {deed : Deed ω} {id : ω} {a : Answer} {b : Broker} (own : deed.publish? = some id)
      (unfinished : t.stage id ≠ .finished) (takes : t.broker.Takes (letter id) a b) :
      Acts letter t deed (.ended (.answered a), t.enter id .finished b)
  | waits {id : ω} {pending : PendingPublish} (ahead : t.stage id = .ahead)
      (brings : pending.remainder = .deliver (letter id)) :
      Acts letter t (.start id) (.waits, t.enter id (.waiting pending) t.broker)
  | drops {id : ω} (unfinished : t.stage id ≠ .finished) :
      Acts letter t (.drop id) (.ended .dropped, t.enter id .finished t.broker)
  | turns (switch : BrokerSwitch) :
      Acts letter t (.turn switch) (.nothing, { t with broker := t.broker.turn switch })
  | closes : Acts letter t .close (.nothing, { t with broker := { t.broker with closed := true } })
  | passes (length : Nat) :
      Acts letter t (.pass length) (.nothing, { t with now := t.now + length })

theorem Sound.acts (h : t.Sound letter) (act : t.act? letter deed = some next) :
    t.Acts letter deed next := by
  cases deed with
  | start id =>
    simp only [act?] at act
    split at act
    next ahead =>
      have unfinished : t.stage id ≠ .finished := by simp [ahead]
      generalize started : t.broker.start t.now (letter id) = start at act
      obtain ⟨start, b⟩ := start
      cases start with
      | done a =>
        exact Option.some.inj act ▸ .answers rfl unfinished (Broker.start_takes h.inMemory started)
      | waiting pending =>
        obtain ⟨rfl, brings⟩ := Broker.start_waits h.inMemory started
        exact Option.some.inj act ▸ .waits ahead brings
    next => cases act
  | goOn id =>
    simp only [act?] at act
    split at act
    next pending waiting =>
      have unfinished : t.stage id ≠ .finished := by simp [waiting]
      simp only [Option.ite_none_right_eq_some, Option.some.injEq] at act
      rw [h.brings id pending waiting] at act
      exact act.2 ▸ .answers rfl unfinished (Broker.finish_takes rfl)
    next => cases act
  | drop id =>
    simp only [act?] at act
    split at act
    next pending waiting => exact Option.some.inj act ▸ .drops (by simp [waiting])
    next => cases act
  | turn switch => exact Option.some.inj act ▸ .turns switch
  | close =>
    simp only [act?, Broker.close_inMemory h.inMemory] at act
    exact Option.some.inj act ▸ .closes
  | pass length => exact Option.some.inj act ▸ .passes length

end BrokerTraffic
end SensorFleet

import SensorFleet.Proofs.Queue.Look
import Mathlib.Logic.Function.Basic

/-!
Traffic at a channel. Any number of parties send, offer, receive and close, go on when they were
woken, and drop calls that wait, each of them one call at a time and all of them in any order. What a
party does between two waits is one event, which keeps what was done and how it was answered.
-/
namespace SensorFleet

/-- Where a party stands: at rest, or in a call that waits. -/
inductive Standing (α : Type)
  | idle
  | sending (x : α)
  | receiving
deriving DecidableEq, Repr

inductive Deed (α : Type)
  | send (x : α)
  | recv
  | offer (x : α)
  /-- A party that was woken looks again. -/
  | goOn
  /-- A party gives up the call in which it waits. -/
  | drop
  | close
deriving DecidableEq, Repr

inductive Reaction (α : Type)
  | accepted (x : α)
  | refused (x : α)
  | handedBack (e : Refusal) (x : α)
  | received (x : α)
  | ended
  | waits
  | dropped
  | closed (first : Bool)
deriving DecidableEq, Repr

namespace Reaction
variable {α : Type}

def accepted? : Reaction α → Option α
  | .accepted x => some x
  | _ => none

def received? : Reaction α → Option α
  | .received x => some x
  | _ => none

end Reaction

structure Traffic (ω α : Type) where
  channel : Channel ω α
  standing : ω → Standing α := fun _ => .idle

namespace Traffic
variable {ω α : Type} [DecidableEq ω]

def enter (t : Traffic ω α) (who : ω) (standing : Standing α) (q : Channel ω α) : Traffic ω α :=
  ⟨q, Function.update t.standing who standing⟩

def afterSend (t : Traffic ω α) (who : ω) (x : α) :
    SendLook × Channel ω α → Reaction α × Traffic ω α
  | (.accepted, q) => (.accepted x, t.enter who .idle q)
  | (.refused, q) => (.refused x, t.enter who .idle q)
  | (.waits, q) => (.waits, t.enter who (.sending x) q)

def afterRecv (t : Traffic ω α) (who : ω) : RecvLook α × Channel ω α → Reaction α × Traffic ω α
  | (.item x, q) => (.received x, t.enter who .idle q)
  | (.ended, q) => (.ended, t.enter who .idle q)
  | (.waits, q) => (.waits, t.enter who .receiving q)

def afterOffer (t : Traffic ω α) (x : α) : Option Refusal × Channel ω α → Reaction α × Traffic ω α
  | (none, q) => (.accepted x, { t with channel := q })
  | (some e, q) => (.handedBack e x, { t with channel := q })

/-- The answer to a deed and what follows from it, if the party can do it now. -/
def act? (t : Traffic ω α) (who : ω) (deed : Deed α) : Option (Reaction α × Traffic ω α) :=
  match deed, t.standing who with
  | .send x, .idle => some (t.afterSend who x (t.channel.send who x))
  | .recv, .idle => some (t.afterRecv who (t.channel.recv who))
  | .offer x, .idle => some (t.afterOffer x (t.channel.offer x))
  | .goOn, .sending x =>
    if t.channel.isWriterWoken who then some (t.afterSend who x (t.channel.resend who x)) else none
  | .goOn, .receiving =>
    if t.channel.isReaderWoken who then some (t.afterRecv who (t.channel.rerecv who)) else none
  | .drop, .sending _ => some (.dropped, t.enter who .idle (t.channel.abandonSend who))
  | .drop, .receiving => some (.dropped, t.enter who .idle (t.channel.abandonRecv who))
  | .close, _ => some (.closed (!t.channel.isClosed), { t with channel := t.channel.close })
  | _, _ => none

structure Event (ω α : Type) where
  who : ω
  deed : Deed α
  reaction : Reaction α
deriving DecidableEq, Repr

/-- What can happen at a new channel, in order, and what it leads to. -/
inductive Run (capacity : Nat) : List (Event ω α) → Traffic ω α → Prop
  | start : Run capacity [] ⟨.new capacity, fun _ => .idle⟩
  | next {es : List (Event ω α)} {t t' : Traffic ω α} {who : ω} {deed : Deed α}
      {reaction : Reaction α} (prior : Run capacity es t)
      (act : t.act? who deed = some (reaction, t')) :
      Run capacity (es ++ [⟨who, deed, reaction⟩]) t'

/-- The events that come of a list of deeds, if each can be done in its turn. -/
def follow (es : List (Event ω α)) (t : Traffic ω α) :
    List (ω × Deed α) → Option (List (Event ω α) × Traffic ω α)
  | [] => some (es, t)
  | (who, deed) :: rest =>
    (t.act? who deed).bind fun (reaction, t') => follow (es ++ [⟨who, deed, reaction⟩]) t' rest

theorem Run.follow {capacity : Nat} {es es' : List (Event ω α)} {t t' : Traffic ω α}
    (h : Run capacity es t) {deeds : List (ω × Deed α)}
    (hf : Traffic.follow es t deeds = some (es', t')) : Run capacity es' t' := by
  induction deeds generalizing es t with
  | nil =>
    simp only [Traffic.follow, Option.some.injEq, Prod.mk.injEq] at hf
    obtain ⟨rfl, rfl⟩ := hf
    exact h
  | cons deed rest ih =>
    obtain ⟨who, deed⟩ := deed
    obtain ⟨⟨reaction, t₁⟩, act, hr⟩ := Option.bind_eq_some_iff.mp hf
    exact ih (h.next act) hr

theorem exists_run (capacity : Nat) (deeds : List (ω × Deed α))
    (f : List (Event ω α) × Traffic ω α → Bool)
    (h : (follow [] ⟨.new capacity, fun _ => .idle⟩ deeds).any f = true) :
    ∃ es t, Run capacity es t ∧ f (es, t) = true := by
  obtain ⟨⟨es, t⟩, run, holds⟩ := (Option.any_eq_true _ _).mp h
  exact ⟨es, t, Run.start.follow run, holds⟩

/-- What a deed comes to. A call looks at the channel when it starts, and again whenever the party
goes on with it. -/
inductive Acts (t : Traffic ω α) (who : ω) : Deed α → Reaction α × Traffic ω α → Prop
  | sends {x : α} {look : SendLook × Channel ω α} (parked : Bool)
      (stands : t.standing who = if parked then .sending x else .idle)
      (woken : parked = true → t.channel.isWriterWoken who = true)
      (sends : (t.channel.writerBack who parked).Sends who x look) :
      Acts t who (if parked then .goOn else .send x) (t.afterSend who x look)
  | receives {look : RecvLook α × Channel ω α} (parked : Bool)
      (stands : t.standing who = if parked then .receiving else .idle)
      (woken : parked = true → t.channel.isReaderWoken who = true)
      (receives : (t.channel.readerBack who parked).Receives who look) :
      Acts t who (if parked then .goOn else .recv) (t.afterRecv who look)
  | offers {x : α} {look : Option Refusal × Channel ω α} (stands : t.standing who = .idle)
      (offers : t.channel.Offers x look) : Acts t who (.offer x) (t.afterOffer x look)
  | dropsSend {x : α} (stands : t.standing who = .sending x) :
      Acts t who .drop (.dropped, t.enter who .idle (t.channel.abandonSend who))
  | dropsRecv (stands : t.standing who = .receiving) :
      Acts t who .drop (.dropped, t.enter who .idle (t.channel.abandonRecv who))
  | closes : Acts t who .close (.closed (!t.channel.isClosed), { t with channel := t.channel.close })

theorem acts_of_act {t : Traffic ω α} {who : ω} {deed : Deed α} {next : Reaction α × Traffic ω α}
    (h : t.act? who deed = some next) : t.Acts who deed next := by
  unfold act? at h
  split at h
  next x idle =>
    exact Option.some.inj h ▸ .sends false idle nofun (t.channel.sends who x)
  next idle =>
    exact Option.some.inj h ▸ .receives false idle nofun (t.channel.receives who)
  next x idle =>
    exact Option.some.inj h ▸ .offers idle (t.channel.offers x)
  next x stands =>
    simp only [Option.ite_none_right_eq_some, Option.some.injEq] at h
    exact h.2 ▸ .sends true stands (fun _ => h.1) ((t.channel.writerBack who true).sends who x)
  next stands =>
    simp only [Option.ite_none_right_eq_some, Option.some.injEq] at h
    exact h.2 ▸ .receives true stands (fun _ => h.1) ((t.channel.readerBack who true).receives who)
  next x stands => exact Option.some.inj h ▸ .dropsSend stands
  next stands => exact Option.some.inj h ▸ .dropsRecv stands
  next => exact Option.some.inj h ▸ .closes
  next => cases h

end Traffic
end SensorFleet

import SensorFleet.Broker
/-!
Sessions of one client with a broker: publishes one after another, of which some go on in the
background, while the broker's switches are turned in between. A background publish starts when the
client waits for the first time after asking for it.
-/
namespace SensorFleet

inductive SessionStep
  | publish (m : Message) (tag : Option String)
  | sleep (length : Nat)
  | close
  | turn (s : BrokerSwitch)
deriving DecidableEq, Repr

/-- A publish in the background that has started. -/
structure BackgroundPublish where
  tag : String
  pending : PendingPublish
deriving DecidableEq, Repr

structure Session where
  now : Nat := 0
  broker : Broker
  /-- Publishes in the background that have not started, oldest first. -/
  queued : List (String × Message) := []
  /-- Those that have, oldest first. -/
  background : List BackgroundPublish := []
  /-- Answers of background publishes that were not reported yet. -/
  answers : List (String × Answer) := []

inductive SessionReply
  | nothing
  | answered (a : Answer)
  | closed (e : Option PublishError)
deriving DecidableEq, Repr

/-- What is noted after a step. -/
structure SessionNote where
  reply : SessionReply
  millis : Nat
  done : List (String × Answer)
  recorded : Nat
  accepted : Nat
  closed : Bool
  connected : Bool

namespace Session

/-- Starts what was queued, in order. -/
def launch (s : Session) : Session :=
  s.queued.foldl (fun s (tag, m) =>
    match s.broker.start s.now m with
    | (.done a, b) => { s with broker := b, answers := s.answers ++ [(tag, a)] }
    | (.waiting p, b) => { s with broker := b, background := s.background ++ [⟨tag, p⟩] })
    { s with queued := [] }

/-- Finishes the background publishes whose alarms have rung by now. -/
def finishDue (s : Session) : Session :=
  let (due, left) := s.background.partition fun p => Instant.hasRung p.pending.alarm s.now
  due.foldl (fun s p =>
    let (a, b) := s.broker.finish p.pending.remainder
    { s with broker := b, answers := s.answers ++ [(p.tag, a)] }) { s with background := left }

/-- The instants up to `goal` at which background publishes end, in order. -/
def rings (s : Session) (goal : Nat) : List Nat :=
  let rings := s.background.filterMap fun p => p.pending.alarm.map Instant.ring
  (rings.filter fun t => t ≤ goal).mergeSort

/-- Waits up to an instant. -/
def passTo (s : Session) (goal : Nat) : Session :=
  let s := s.launch
  let s := (s.rings goal).foldl (fun s t => finishDue { s with now := max s.now t }) s
  { s with now := max s.now goal }

/-- Waits for an alarm; one that is due does not keep the client. -/
def await (s : Session) (alarm : Option Nat) : Session :=
  match alarm.map Instant.ring with
  | none => s.launch
  | some t => if t ≤ s.now then s else s.passTo t

def act (s : Session) : SessionStep → SessionReply × Session
  | .publish m none =>
    match s.broker.start s.now m with
    | (.done a, b) => (.answered a, { s with broker := b })
    | (.waiting p, b) =>
      let s := { s with broker := b }.await p.alarm
      let (a, b) := s.broker.finish p.remainder
      (.answered a, { s with broker := b })
  | .publish m (some tag) => (.nothing, { s with queued := s.queued ++ [(tag, m)] })
  | .sleep d => (.nothing, s.await (Instant.after? s.now d))
  | .close =>
    let (e, b) := s.broker.close
    (.closed e, { s with broker := b })
  | .turn t => (.nothing, { s with broker := s.broker.turn t })

/-- Does a step and notes what can be seen after it. -/
def perform (s : Session) (step : SessionStep) : SessionNote × Session :=
  let start := s.now
  let (reply, s) := s.act step
  (⟨reply, Instant.millis (s.now - start), s.answers, s.broker.messages.size, s.broker.accepted,
    s.broker.closed, s.broker.isConnected⟩, { s with answers := [] })

/-- Does steps one after another, unless the client's own publish crashes. -/
def play (s : Session) : List SessionStep → Except Crash (List SessionNote × Session)
  | [] => .ok ([], s)
  | step :: rest => do
    let (note, s) := s.perform step
    if let .answered (.crashed c) := note.reply then throw c
    let (notes, s) ← s.play rest
    return (note :: notes, s)

end Session
end SensorFleet

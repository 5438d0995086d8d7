import SensorFleet.Crash
import SensorFleet.Time.Instant
/-!
Brokers. A publish starts, perhaps waits, and is then answered. The broker in memory looks at its
connection and its delay when a publish starts and at its rejection only when it is answered; a
scripted broker answers its n-th publish as a script says.
-/
namespace SensorFleet

/-- Why a single publish did not go through. -/
inductive PublishError
  | notConnected
  | timeout (limit : Nat)
  | rejected (reason : String)
  | encoding (reason : String)
deriving DecidableEq, Repr

namespace PublishError

def message : PublishError → String
  | notConnected => "broker not connected"
  | timeout limit => "publish timed out after " ++ Duration.text limit
  | rejected reason => "broker rejected publish: " ++ reason
  | encoding reason => "payload encode failed: " ++ reason

/-- The label under which failures are counted. -/
def reason : PublishError → String
  | notConnected => "not_connected"
  | timeout _ => "timeout"
  | rejected _ => "publish_error"
  | encoding _ => "encode_error"

end PublishError

structure Message where
  subject : String
  payload : String
deriving DecidableEq, Repr

/-- How a publish ends. -/
inductive Answer
  | accepted
  | failed (e : PublishError)
  | crashed (c : Crash)
deriving DecidableEq, Repr

/-- What remains to be done when the wait of a publish is over. -/
inductive Remainder
  | deliver (m : Message)
  | answer (a : Answer)
deriving DecidableEq, Repr

/-- A publish that waits for an alarm, or for ever, and then finishes. -/
structure PendingPublish where
  alarm : Option Nat
  remainder : Remainder
deriving DecidableEq, Repr

/-- One scripted call: how long it waits and how it ends. -/
structure ScriptedCall where
  delay : Nat := 0
  answer : Answer := .accepted
deriving DecidableEq, Repr

/-- What kind of broker it is. Loopback keeps no messages. -/
inductive BrokerKind
  | recording
  | loopback
  | scripted (calls : Nat → ScriptedCall) (closeError : Option PublishError)

structure Broker where
  kind : BrokerKind
  connected : Bool := true
  closed : Bool := false
  delay : Nat := 0
  rejection : Option String := none
  accepted : Nat := 0
  messages : Array Message := #[]
  /-- How many publishes a scripted broker has seen. -/
  started : Nat := 0

namespace Broker

def isScripted (b : Broker) : Bool :=
  match b.kind with
  | .scripted _ _ => true
  | _ => false

/-- Whether publishes are let through; a closed broker never connects again. -/
def isConnected (b : Broker) : Bool := b.connected && !b.closed

def accept (b : Broker) (m : Message) : Broker :=
  match b.kind with
  | .loopback => { b with accepted := b.accepted + 1 }
  | _ => { b with accepted := b.accepted + 1, messages := b.messages.push m }

/-- Finishes a publish whose wait is over. -/
def finish (b : Broker) : Remainder → Answer × Broker
  | .answer a => (a, b)
  | .deliver m =>
    match b.rejection with
    | some reason => (.failed (.rejected reason), b)
    | none => (.accepted, b.accept m)

/-- The wait and the rest of a publish that starts now, or its answer if it needs no wait. -/
inductive Start
  | done (a : Answer)
  | waiting (p : PendingPublish)

/-- Starts a publish. -/
def start (b : Broker) (now : Nat) (m : Message) : Start × Broker :=
  match b.kind with
  | .scripted calls _ =>
    let call := calls b.started
    let b := { b with started := b.started + 1, messages := b.messages.push m }
    if call.delay = 0 then (.done call.answer, b)
    else (.waiting ⟨Instant.after? now call.delay, .answer call.answer⟩, b)
  | _ =>
    if !b.isConnected then (.done (.failed .notConnected), b)
    else if b.delay = 0 then
      let (a, b) := b.finish (.deliver m)
      (.done a, b)
    else (.waiting ⟨Instant.after? now (Duration.ofMillis b.delay), .deliver m⟩, b)

/-- Releases the connection. A scripted broker stays connected and may fail to close. -/
def close (b : Broker) : Option PublishError × Broker :=
  match b.kind with
  | .scripted _ e => (e, b)
  | _ => (none, { b with closed := true })

end Broker

/-- Switches of a broker that are turned from outside. -/
inductive BrokerSwitch
  | connection (connected : Bool)
  | delay (length : Nat)
  | rejection (reason : Option String)
deriving DecidableEq, Repr

/-- A delay is kept in whole milliseconds of 64 bits. -/
def Broker.turn (b : Broker) : BrokerSwitch → Broker
  | .connection c => { b with connected := c }
  | .delay d => { b with delay := Duration.millis d % UInt64.size }
  | .rejection r => { b with rejection := r }

end SensorFleet

import SensorFleet.Fleet.Scene
/-!
Single calls on the primary queue that go on in the background: one send or one receive, which may
be aborted while it waits.
-/
namespace SensorFleet

inductive CallKind
  | send (r : Reading)
  | recv
deriving DecidableEq, Repr

inductive CallResult
  | sent
  | refused
  | received (r : Reading)
  | ended
  | aborted
deriving DecidableEq, Repr

inductive CallPhase
  | created
  | parked
  | over (result : CallResult)
deriving DecidableEq, Repr

structure Call where
  tag : String
  kind : CallKind
  phase : CallPhase := .created
  abortRequested : Bool := false
deriving DecidableEq, Repr

namespace Call

def result? (c : Call) : Option CallResult :=
  match c.phase with
  | .over r => some r
  | _ => none

def isWoken (c : Call) (who : Party) (s : Scene) : Bool :=
  match c.kind with
  | .send _ => s.primary.isWriterWoken who
  | .recv => s.primary.isReaderWoken who

def isReady (c : Call) (who : Party) (s : Scene) : Bool :=
  match c.phase with
  | .created => true
  | .parked => c.abortRequested || c.isWoken who s
  | .over _ => false

def endWith (c : Call) (r : CallResult) : Call := { c with phase := .over r }

/-- Gives the call up; one that is parked leaves the queue. -/
def giveUp (c : Call) (who : Party) (s : Scene) : Call × Scene :=
  let scene := match c.phase, c.kind with
    | .parked, .send _ => s.abandonSend .primary who
    | .parked, .recv => s.abandonRecv .primary who true
    | _, _ => s
  (c.endWith .aborted, scene)

def look (c : Call) (who : Party) (parked : Bool) (s : Scene) : Call × Scene :=
  match c.kind with
  | .send r =>
    match (if parked then s.resend .primary who r else s.send .primary who r) with
    | (.accepted, s) => (c.endWith .sent, s)
    | (.refused, s) => (c.endWith .refused, s)
    | (.waits, s) => ({ c with phase := .parked }, s)
  | .recv =>
    match s.recv .primary who parked with
    | (.item r, s) => (c.endWith (.received r), s)
    | (.ended, s) => (c.endWith .ended, s)
    | (.waits, s) => ({ c with phase := .parked }, s)

def step (c : Call) (who : Party) (s : Scene) : Call × Scene :=
  match c.phase with
  | .over _ => (c, s)
  | phase => if c.abortRequested then c.giveUp who s else c.look who (phase = .parked) s

end Call
end SensorFleet

import SensorFleet.Queue.Signal
/-!
A bounded first-in, first-out channel that can be closed. Writers wait while it is full and readers
while it is empty; after closing nothing enters, and what is inside can still be taken. Each
operation here is what a party does between two waits.
-/
namespace SensorFleet

/-- A channel of items `α` between parties `ω`. -/
structure Channel (ω α : Type) where
  capacity : Nat
  buffer : List α := []
  isClosed : Bool := false
  /-- The greatest length so far. -/
  highWater : Nat := 0
  /-- How many items were refused because the channel was closed. -/
  late : Nat := 0
  readable : Signal ω := {}
  writable : Signal ω := {}
deriving Repr, Inhabited

/-- Why an item was not taken at once. -/
inductive Refusal
  | full
  | closed
deriving DecidableEq, Repr

def Refusal.message : Refusal → String
  | .full => "queue full"
  | .closed => "send on closed queue"

/-- What a writer sees at a look. -/
inductive SendLook
  | accepted
  | refused
  | waits
deriving DecidableEq, Repr

/-- What a reader sees at a look. -/
inductive RecvLook (α : Type)
  | item (x : α)
  | ended
  | waits
deriving Repr

namespace Channel
variable {ω α : Type}

/-- An empty channel; it has room for at least one item. -/
def new (capacity : Nat) : Channel ω α := { capacity := max capacity 1 }

def length (q : Channel ω α) : Nat := q.buffer.length

def isEmpty (q : Channel ω α) : Bool := q.buffer.isEmpty

def isFull (q : Channel ω α) : Bool := q.capacity ≤ q.length

def push (q : Channel ω α) (x : α) : Channel ω α :=
  { q with
    buffer := q.buffer ++ [x]
    highWater := max q.highWater (q.length + 1)
    readable := q.readable.notifyOne }

/-- Offers an item without waiting. -/
def offer (q : Channel ω α) (x : α) : Option Refusal × Channel ω α :=
  if q.isClosed then (some .closed, { q with late := q.late + 1 })
  else if q.isFull then (some .full, q)
  else (none, q.push x)

/-- A writer looks; it parks if there is no room. A refused one passes the news on. -/
def send (q : Channel ω α) (who : ω) (x : α) : SendLook × Channel ω α :=
  if q.isClosed then
    (.refused, { q with late := q.late + 1, writable := q.writable.notifyOne })
  else if q.isFull then (.waits, { q with writable := q.writable.park who })
  else (.accepted, q.push x)

/-- A reader looks; it parks if there is nothing to take. -/
def recv (q : Channel ω α) (who : ω) : RecvLook α × Channel ω α :=
  match q.buffer with
  | x :: rest => (.item x, { q with buffer := rest, writable := q.writable.notifyOne })
  | [] =>
    if q.isClosed then (.ended, { q with readable := q.readable.notifyOne })
    else (.waits, { q with readable := q.readable.park who })

/-- Closes the channel and wakes everyone. -/
def close (q : Channel ω α) : Channel ω α :=
  { q with
    isClosed := true
    readable := q.readable.notifyAll.notifyOne
    writable := q.writable.notifyAll.notifyOne }

variable [DecidableEq ω]

def isWriterWoken (q : Channel ω α) (who : ω) : Bool := q.writable.isWoken who

def isReaderWoken (q : Channel ω α) (who : ω) : Bool := q.readable.isWoken who

/-- A woken writer looks again. -/
def resend (q : Channel ω α) (who : ω) (x : α) : SendLook × Channel ω α :=
  { q with writable := q.writable.resume who }.send who x

/-- A woken reader looks again. -/
def rerecv (q : Channel ω α) (who : ω) : RecvLook α × Channel ω α :=
  { q with readable := q.readable.resume who }.recv who

/-- A waiting writer goes away with its item. -/
def abandonSend (q : Channel ω α) (who : ω) : Channel ω α :=
  { q with writable := q.writable.leave who }

/-- A waiting reader goes away. -/
def abandonRecv (q : Channel ω α) (who : ω) : Channel ω α :=
  { q with readable := q.readable.leave who }

/-- Takes an item if there is one, without staying to wait. -/
def poll (q : Channel ω α) (who : ω) : RecvLook α × Channel ω α :=
  match q.recv who with
  | (.waits, q) => (.waits, q.abandonRecv who)
  | r => r

end Channel
end SensorFleet

import SensorFleet.Queue.Channel

/-!
What a look at a channel comes to. Each outcome of a writer's or a reader's look is tied to the
state in which it arises and to the channel that it leaves behind.
-/
namespace SensorFleet.Channel
variable {ω α : Type}

def writerParked (q : Channel ω α) (who : ω) : Channel ω α :=
  { q with writable := q.writable.park who }

def readerParked (q : Channel ω α) (who : ω) : Channel ω α :=
  { q with readable := q.readable.park who }

def itemTaken (q : Channel ω α) (rest : List α) : Channel ω α :=
  { q with buffer := rest, writable := q.writable.notifyOne }

def endSeen (q : Channel ω α) : Channel ω α := { q with readable := q.readable.notifyOne }

inductive Sends (q : Channel ω α) (who : ω) (x : α) : SendLook × Channel ω α → Prop
  | refused (closed : q.isClosed = true) :
      Sends q who x (.refused, { q with late := q.late + 1, writable := q.writable.notifyOne })
  | waits (opened : q.isClosed = false) (full : q.capacity ≤ q.length) :
      Sends q who x (.waits, q.writerParked who)
  | accepted (opened : q.isClosed = false) (room : q.length < q.capacity) :
      Sends q who x (.accepted, q.push x)

theorem sends (q : Channel ω α) (who : ω) (x : α) : q.Sends who x (q.send who x) := by
  unfold send
  split
  next hc => exact .refused hc
  next hc =>
    have ho : q.isClosed = false := by simpa using hc
    split
    next hf => exact .waits ho (by simpa [isFull] using hf)
    next hf => exact .accepted ho (by simpa [isFull] using hf)

inductive Offers (q : Channel ω α) (x : α) : Option Refusal × Channel ω α → Prop
  | closed (closed : q.isClosed = true) : Offers q x (some .closed, { q with late := q.late + 1 })
  | full (opened : q.isClosed = false) (full : q.capacity ≤ q.length) : Offers q x (some .full, q)
  | accepted (opened : q.isClosed = false) (room : q.length < q.capacity) :
      Offers q x (none, q.push x)

theorem offers (q : Channel ω α) (x : α) : q.Offers x (q.offer x) := by
  unfold offer
  split
  next hc => exact .closed hc
  next hc =>
    have ho : q.isClosed = false := by simpa using hc
    split
    next hf => exact .full ho (by simpa [isFull] using hf)
    next hf => exact .accepted ho (by simpa [isFull] using hf)

inductive Receives (q : Channel ω α) (who : ω) : RecvLook α × Channel ω α → Prop
  | item {x : α} {rest : List α} (buffer : q.buffer = x :: rest) :
      Receives q who (.item x, q.itemTaken rest)
  | ended (buffer : q.buffer = []) (closed : q.isClosed = true) :
      Receives q who (.ended, q.endSeen)
  | waits (buffer : q.buffer = []) (opened : q.isClosed = false) :
      Receives q who (.waits, q.readerParked who)

theorem receives (q : Channel ω α) (who : ω) : q.Receives who (q.recv who) := by
  unfold recv
  split
  next x rest hb => exact .item hb
  next hb =>
    split
    next hc => exact .ended hb hc
    next hc => exact .waits hb (by simpa using hc)

variable [DecidableEq ω]

/-- The channel that a writer finds when it looks; `parked` tells whether it was woken for that. -/
def writerBack (q : Channel ω α) (who : ω) (parked : Bool) : Channel ω α :=
  { q with writable := if parked then q.writable.resume who else q.writable }

/-- The channel that a reader finds when it looks; `parked` tells whether it was woken for that. -/
def readerBack (q : Channel ω α) (who : ω) (parked : Bool) : Channel ω α :=
  { q with readable := if parked then q.readable.resume who else q.readable }

theorem recv_readerBack (q : Channel ω α) (who : ω) (parked : Bool) :
    (q.readerBack who parked).recv who = if parked then q.rerecv who else q.recv who := by
  cases parked <;> rfl

end SensorFleet.Channel

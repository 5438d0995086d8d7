import SensorFleet.Fleet.Aggregator
import SensorFleet.Fleet.Publisher
import SensorFleet.Config
/-!
The report of a whole simulation. The slots are sorted by producer, so that looking one up halves
the list at each step.
-/
namespace SensorFleet

/-- Why a simulation failed. -/
inductive SimError
  | slot (e : SlotError)
  | config (e : ConfigError)
  | other (text : String)
deriving DecidableEq, Repr

def SimError.message : SimError → String
  | .slot e => e.message
  | .config e => e.message
  | .other text => text

structure SimReport where
  runId : RunId
  startedAt : WallTime
  finishedAt : WallTime
  producers : Array SlotReport
  sent : Nat
  received : Nat
  restarts : Nat
  forwarded : Nat
  /-- Readings that left the publish path unpublished, at either of its ends. -/
  dropped : Nat
  publisher : Option PublisherReport
  queueCapacity : Nat := 0
  queueHighWater : Nat := 0
  lateSends : Nat := 0
deriving DecidableEq, Repr

namespace SimReport

/-- Slots sorted by producer; those of one producer keep their order. -/
def sortSlots (slots : List SlotReport) : List SlotReport :=
  slots.mergeSort fun a b => a.producer ≤ b.producer

/-- The sum of a count over the slots. -/
def total (count : SlotReport → Nat) (slots : List SlotReport) : Nat :=
  slots.foldr (fun s n => count s + n) 0

def ofParts (runId : RunId) (startedAt finishedAt : WallTime) (slots : List SlotReport)
    (aggregated : AggregatorReport) (published : Option PublisherReport) : SimReport :=
  { runId, startedAt, finishedAt
    producers := (sortSlots slots).toArray
    sent := total SlotReport.sent slots
    received := aggregated.received
    restarts := total SlotReport.restarts slots
    forwarded := aggregated.forwarded
    dropped := aggregated.dropped + published.elim 0 PublisherReport.dropped
    publisher := published }

def withQueue (r : SimReport) (q : ReadingQueue) : SimReport :=
  { r with queueCapacity := q.capacity, queueHighWater := q.highWater, lateSends := q.late }

/-- Halves a range of `size` places from `base` on until one is left: the last place whose producer
is not above `id`, if there is such a place. -/
def search (slots : Array SlotReport) (id : ProducerId) (base size : Nat) : Nat :=
  if size ≤ 1 then base
  else
    let half := size / 2
    let base := if (slots[base + half]?).any fun s => s.producer ≤ id then base + half else base
    search slots id base (size - half)
termination_by size
decreasing_by omega

/-- The report of the slot of a producer. -/
def slot? (r : SimReport) (id : ProducerId) : Option SlotReport :=
  (r.producers[search r.producers id 0 r.producers.size]?).filter fun s => s.producer = id

/-- Whether every reading that entered the queue was received. -/
def isLossless (r : SimReport) : Bool := r.sent = r.received

def toJson (r : SimReport) : Json :=
  .object ([("run_id", .string r.runId.digits), ("started_at", .string r.startedAt.text),
    ("finished_at", .string r.finishedAt.text),
    ("producers", .array (r.producers.toList.map SlotReport.toJson)), ("sent", .nat r.sent),
    ("received", .nat r.received), ("restarts", .nat r.restarts), ("forwarded", .nat r.forwarded),
    ("dropped", .nat r.dropped)] ++
    (r.publisher.elim [] fun p => [("publisher", p.toJson)]) ++
    [("queue_capacity", .nat r.queueCapacity), ("queue_high_watermark", .nat r.queueHighWater),
      ("sends_after_close", .nat r.lateSends)])

end SimReport
end SensorFleet

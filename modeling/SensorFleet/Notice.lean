import SensorFleet.Broker
import SensorFleet.Json.Value
import SensorFleet.Queue.Channel
import SensorFleet.Slot.Slot
/-!
Notices: what a run reports about itself while it goes on. Each has a level, a text and named
values; which part of the fleet it comes from is told by its origin.
-/
namespace SensorFleet

inductive Level
  | trace
  | debug
  | info
  | warn
  | error
deriving DecidableEq, Repr

namespace Level

def name : Level → String
  | trace => "TRACE"
  | debug => "DEBUG"
  | info => "INFO"
  | warn => "WARN"
  | error => "ERROR"

def rank : Level → Nat
  | trace => 0
  | debug => 1
  | info => 2
  | warn => 3
  | error => 4

end Level

/-- The parts of the program that give notice. -/
inductive Origin
  | slot
  | producer
  | supervisor
  | aggregator
  | publisher
  | coordinator
  | broker
deriving DecidableEq, Repr

def Origin.target : Origin → String
  | slot => "sensim_core::domain::slot"
  | producer => "sensim_core::app::producer"
  | supervisor => "sensim_core::app::supervisor"
  | aggregator => "sensim_core::app::aggregator"
  | publisher => "sensim_core::app::publisher_loop"
  | coordinator => "sensim_core::app::coordinator"
  | broker => "sensim_core::impls::inmem_broker"

inductive Notice
  | slotMoved (id : ProducerId) (source target : SlotState)
  | producerStarting (id : ProducerId)
  | producerStopping (id : ProducerId) (sent : Nat)
  | sendRefused (id : ProducerId)
  | producerFaulted (fault : ProducerFault)
  | notRestarting (id : ProducerId)
  | restarting (id : ProducerId) (restarts : Nat)
  | aggregatorStarting
  | drainingQueue (received buffered : Nat)
  | aggregatorSummary (received sinceLast buffered : Nat)
  | readingReceived (id : ProducerId) (value : Binary64)
  | fanoutUnavailable (id : ProducerId) (closed : Bool)
  | readingDropped (id : ProducerId) (closed : Bool)
  | aggregatorStopping (received forwarded dropped : Nat)
  | publisherStarting (subjectRoot : String)
  | drainingFanout (buffered : Nat)
  | deadlinePassed (buffered : Nat)
  | deadlinePassedMidPublish (id : ProducerId)
  | publisherStats (success failures dropped : Nat) (connected : Bool)
  | publishSkipped (id : ProducerId)
  | publishFailed (id : ProducerId) (error : PublishError)
  | publisherStopping (attempted success failures dropped : Nat)
  | brokerClosing
  | publisherExitedEarly
  | simulationStarted (producers intervalMillis capacity durationSeconds : Nat) (publishing : Bool)
  | interrupted
  | durationElapsed
  | cancellationRequested
  | barrierFailed (error : SlotError)
  | barrierTaskFailed (c : Crash)
  | queueClosed (buffered : Nat)
  | aggregatorTaskFailed (c : Crash)
  | publisherTaskFailed (c : Crash)
  | brokerCloseFailed (error : PublishError)
  | queueStats (highWater : Nat)
  | lateSends (count : Nat)
  | endedGracefully (sent received restarts dropped : Nat)
deriving DecidableEq, Repr

namespace Notice

def level : Notice → Level
  | slotMoved .. => .trace
  | producerStarting .. | producerStopping .. | notRestarting .. | readingReceived ..
  | readingDropped .. | drainingFanout .. | publishSkipped .. | queueStats .. => .debug
  | producerFaulted .. | fanoutUnavailable .. | deadlinePassed .. | deadlinePassedMidPublish ..
  | publishFailed .. | publisherExitedEarly | brokerCloseFailed .. => .warn
  | sendRefused .. | barrierFailed .. | barrierTaskFailed .. | aggregatorTaskFailed ..
  | publisherTaskFailed .. | lateSends .. => .error
  | _ => .info

def origin : Notice → Origin
  | slotMoved .. => .slot
  | producerStarting .. | producerStopping .. => .producer
  | sendRefused .. | producerFaulted .. | notRestarting .. | restarting .. => .supervisor
  | aggregatorStarting | drainingQueue .. | aggregatorSummary .. | readingReceived ..
  | fanoutUnavailable .. | readingDropped .. | aggregatorStopping .. => .aggregator
  | publisherStarting .. | drainingFanout .. | deadlinePassed .. | deadlinePassedMidPublish ..
  | publisherStats .. | publishSkipped .. | publishFailed .. | publisherStopping .. => .publisher
  | brokerClosing => .broker
  | _ => .coordinator

def text : Notice → String
  | slotMoved .. => "slot transition"
  | producerStarting .. => "producer starting"
  | producerStopping .. => "producer stopping"
  | sendRefused .. => "producer send rejected; stopping slot"
  | producerFaulted .. => "producer faulted"
  | notRestarting .. => "cancelled; not restarting"
  | restarting .. => "restarting producer"
  | aggregatorStarting => "aggregator starting"
  | drainingQueue .. => "cancellation observed; draining queue"
  | aggregatorSummary .. => "aggregator summary"
  | readingReceived .. => "reading received"
  | fanoutUnavailable .. =>
    "publisher fan-out unavailable; dropping readings from the publish path"
  | readingDropped .. => "reading dropped from publish path"
  | aggregatorStopping .. => "aggregator stopping"
  | publisherStarting .. => "publisher starting"
  | drainingFanout .. => "cancellation observed; draining fan-out"
  | deadlinePassed .. => "drain deadline passed; dropping unpublished readings"
  | deadlinePassedMidPublish .. =>
    "drain deadline passed mid-publish; dropping unpublished readings"
  | publisherStats .. => "publisher stats"
  | publishSkipped .. => "publish skipped: broker not connected"
  | publishFailed .. => "publish failed"
  | publisherStopping .. => "publisher stopping"
  | brokerClosing => "closing broker connection"
  | publisherExitedEarly =>
    "publisher exited before the fan-out closed; remaining readings are dropped"
  | simulationStarted .. => "simulation started"
  | interrupted => "shutdown signal received, starting graceful shutdown"
  | durationElapsed => "simulation duration elapsed, shutting down"
  | cancellationRequested => "cancellation requested, shutting down"
  | barrierFailed .. => "fault barrier failed"
  | barrierTaskFailed .. => "fault barrier task failed"
  | queueClosed .. => "all producers stopped, queue closed"
  | aggregatorTaskFailed .. => "aggregator task failed"
  | publisherTaskFailed .. => "publisher task failed; its counts are missing from the report"
  | brokerCloseFailed .. => "broker close failed"
  | queueStats .. => "queue stats"
  | lateSends .. => "sends observed after queue close"
  | endedGracefully .. => "simulation ended gracefully"

/-- What is said of a task that crashed. -/
def taskFailure : Crash → String
  | .text m => "task panicked with message " ++ "\"" ++ m ++ "\""
  | .other => "task panicked"

def producerField (id : ProducerId) : String × Json := ("producer_id", .string id.text)

def fields : Notice → List (String × Json)
  | slotMoved id s t =>
    [producerField id, ("from", .string s.title), ("to", .string t.title)]
  | producerStarting id | notRestarting id | deadlinePassedMidPublish id | publishSkipped id =>
    [producerField id]
  | producerStopping id sent => [producerField id, ("sent", .nat sent)]
  | sendRefused id => [producerField id, ("error", .string Refusal.closed.message)]
  | producerFaulted f =>
    [producerField f.producer, ("attempt", .nat f.attempt), ("error", .string f.message)]
  | restarting id n => [producerField id, ("restarts", .nat n)]
  | drainingQueue r b => [("received", .nat r), ("buffered", .nat b)]
  | aggregatorSummary r s b =>
    [("received", .nat r), ("since_last", .nat s), ("buffered", .nat b)]
  | readingReceived id v => [producerField id, ("value", .real v)]
  | fanoutUnavailable id c | readingDropped id c => [producerField id, ("closed", .bool c)]
  | aggregatorStopping r f d =>
    [("received", .nat r), ("forwarded", .nat f), ("dropped", .nat d)]
  | publisherStarting root => [("prefix", .string root)]
  | drainingFanout b | deadlinePassed b | queueClosed b => [("buffered", .nat b)]
  | publisherStats s f d c =>
    [("success", .nat s), ("failures", .nat f), ("dropped", .nat d), ("connected", .bool c)]
  | publishFailed id e => [producerField id, ("error", .string e.message)]
  | publisherStopping a s f d =>
    [("attempted", .nat a), ("success", .nat s), ("failures", .nat f), ("dropped", .nat d)]
  | simulationStarted n i c d p =>
    [("producers", .nat n), ("interval_ms", .nat i), ("capacity", .nat c),
      ("duration_secs", .nat d), ("publishing", .bool p)]
  | barrierFailed e => [("error", .string e.message)]
  | barrierTaskFailed c | aggregatorTaskFailed c | publisherTaskFailed c =>
    [("error", .string (taskFailure c))]
  | brokerCloseFailed e => [("error", .string e.message)]
  | queueStats h => [("high_watermark", .nat h)]
  | lateSends n => [("count", .nat n)]
  | endedGracefully s r n d =>
    [("sent", .nat s), ("received", .nat r), ("restarts", .nat n), ("dropped", .nat d)]
  | aggregatorStarting | brokerClosing | publisherExitedEarly | interrupted | durationElapsed
  | cancellationRequested => []

end Notice
end SensorFleet

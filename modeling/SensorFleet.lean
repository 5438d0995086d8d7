import SensorFleet.Broker
import SensorFleet.BrokerSession
import SensorFleet.Clock
import SensorFleet.Command.LogFilter
import SensorFleet.Command.LogLine
import SensorFleet.Command.Run
import SensorFleet.Command.Usage
import SensorFleet.Config
import SensorFleet.Crash
import SensorFleet.Fleet.Aggregator
import SensorFleet.Fleet.Call
import SensorFleet.Fleet.Machine
import SensorFleet.Fleet.Pipeline
import SensorFleet.Fleet.Publisher
import SensorFleet.Fleet.Run
import SensorFleet.Fleet.Scene
import SensorFleet.Fleet.Simulation
import SensorFleet.Fleet.Supervisor
import SensorFleet.Fleet.Timeline
import SensorFleet.Id
import SensorFleet.Json.Decode
import SensorFleet.Json.Fault
import SensorFleet.Json.Numeral
import SensorFleet.Json.Pretty
import SensorFleet.Json.Records
import SensorFleet.Json.Value
import SensorFleet.Main
import SensorFleet.Metrics
import SensorFleet.Net.SocketAddress
import SensorFleet.Notice
import SensorFleet.Number.Binary64
import SensorFleet.Number.Shortest
import SensorFleet.Proofs.Fleet.Books
import SensorFleet.Proofs.Fleet.Conservation
import SensorFleet.Proofs.Fleet.Consumers
import SensorFleet.Proofs.Fleet.Coordination
import SensorFleet.Proofs.Fleet.Execution
import SensorFleet.Proofs.Fleet.Journal
import SensorFleet.Proofs.Fleet.Order
import SensorFleet.Proofs.Fleet.Postings
import SensorFleet.Proofs.Fleet.Progress
import SensorFleet.Proofs.Fleet.PublishAccounts
import SensorFleet.Proofs.Fleet.Reckoning
import SensorFleet.Proofs.Fleet.Results
import SensorFleet.Proofs.Fleet.Roster
import SensorFleet.Proofs.Fleet.Shutdown
import SensorFleet.Proofs.Fleet.Slots
import SensorFleet.Proofs.Fleet.Waits
import SensorFleet.Proofs.Metrics.Tallies
import SensorFleet.Proofs.Queue.Look
import SensorFleet.Proofs.Queue.Waiting
import SensorFleet.Queue.Channel
import SensorFleet.Queue.Signal
import SensorFleet.Reading
import SensorFleet.Report
import SensorFleet.Slot.Slot
import SensorFleet.Slot.State
import SensorFleet.Source.Source
import SensorFleet.Source.Stream
import SensorFleet.Text.Base32
import SensorFleet.Text.Blank
import SensorFleet.Text.Shown
import SensorFleet.Text.Visible
import SensorFleet.Time.Calendar
import SensorFleet.Time.Duration
import SensorFleet.Time.Instant
import SensorFleet.Time.WallTime
import SensorFleet.Time.WallTimeReader
import SensorFleet.Proofs.Queue.Fifo
import SensorFleet.Proofs.Queue.WakeUps
import SensorFleet.Proofs.Fleet.Erasure
import SensorFleet.Proofs.Fleet.Isolation
import SensorFleet.Proofs.Fleet.Lifecycle
import SensorFleet.Proofs.Fleet.LostReader
import SensorFleet.Proofs.Fleet.Rundown
import SensorFleet.Proofs.Fleet.Containment
import SensorFleet.Proofs.Fleet.CaptureOrder
import SensorFleet.Proofs.Fleet.DrainLimit
import SensorFleet.Proofs.Fleet.Verdict
import SensorFleet.Proofs.Fleet.Supply
import SensorFleet.Proofs.Fleet.Launches
import SensorFleet.Proofs.Fleet.Ticks
import SensorFleet.Proofs.Fleet.Pace
import SensorFleet.Proofs.Fleet.Course
import SensorFleet.Proofs.Fleet.Schedule
import SensorFleet.Proofs.Fleet.Dealings
import SensorFleet.Proofs.Fleet.Publishing
import SensorFleet.Proofs.Fleet.BrokerLife
import SensorFleet.Proofs.Fleet.BrokerImage
import SensorFleet.Proofs.Fleet.CalmPorts
import SensorFleet.Proofs.Fleet.TimersInRange
import SensorFleet.Proofs.Fleet.Seeds
import SensorFleet.Proofs.Fleet.MetricsAgreement
import SensorFleet.Proofs.Outlet.Attempts
import SensorFleet.Proofs.Outlet.Deadline
import SensorFleet.Proofs.Berth.Quiet
import SensorFleet.Proofs.Berth.Rate
import SensorFleet.Proofs.Berth.Bursts
import SensorFleet.Proofs.Berth.Neighbours
import SensorFleet.Proofs.Json.ReadingPayload
import SensorFleet.Proofs.Queue.Gauges
import SensorFleet.Proofs.Intake.Cadence
import SensorFleet.Proofs.Intake.Company
import SensorFleet.Proofs.Fleet.OwnSeeds
import SensorFleet.Proofs.Text.RunNames
import SensorFleet.Proofs.Json.SlotReportText
import SensorFleet.Proofs.Report.SlotOrder
import SensorFleet.Proofs.Slot.CallSequences
import SensorFleet.Proofs.Broker.Ledger

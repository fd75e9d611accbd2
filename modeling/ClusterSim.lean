import ClusterSim.Cluster
import ClusterSim.Command.Failure
import ClusterSim.Command.Session
import ClusterSim.Config
import ClusterSim.Config.Document
import ClusterSim.Counter
import ClusterSim.Export
import ClusterSim.Json
import ClusterSim.Log.Directive
import ClusterSim.Log.Event
import ClusterSim.Log.Filter
import ClusterSim.Log.Pattern
import ClusterSim.Main
import ClusterSim.Metrics
import ClusterSim.NameMap
import ClusterSim.Node
import ClusterSim.Observer
import ClusterSim.Pod
import ClusterSim.PodId
import ClusterSim.Proofs.Choice
import ClusterSim.Proofs.Choice.Greatest
import ClusterSim.Proofs.Choice.Preference
import ClusterSim.Proofs.Choice.Score
import ClusterSim.Proofs.NameMap
import ClusterSim.Proofs.Node.Ledger
import ClusterSim.Proofs.Node.Series
import ClusterSim.Proofs.Quantity.Notation
import ClusterSim.Proofs.Queue
import ClusterSim.Proofs.Resources
import ClusterSim.Proofs.Tick.Submission
import ClusterSim.Quantity
import ClusterSim.Queue
import ClusterSim.Resources
import ClusterSim.Scheduler
import ClusterSim.Simulation
import ClusterSim.Simulation.Dump
import ClusterSim.Stop
import ClusterSim.Submitter
import ClusterSim.Text.Alphanumeric
import ClusterSim.Text.Blank
import ClusterSim.Text.Dump
import ClusterSim.Text.Numeral
import ClusterSim.Text.Quoted
import ClusterSim.Text.Slice
import ClusterSim.Text.Unprinted
import ClusterSim.Tick
import ClusterSim.Tick.Report
import ClusterSim.TickLog
import ClusterSim.Time.Calendar
import ClusterSim.Time.Clock
import ClusterSim.Time.Delta
import ClusterSim.Time.Instant
import ClusterSim.Time.Lenient
import ClusterSim.Time.Reading
import ClusterSim.Time.Rfc3339
import ClusterSim.TimeSource
import ClusterSim.Wide
import ClusterSim.Workload
import ClusterSim.Workload.Document
import ClusterSim.Workload.Draw
import ClusterSim.Workload.Random
import ClusterSim.Yaml.Character
import ClusterSim.Yaml.Fault
import ClusterSim.Yaml.Field
import ClusterSim.Yaml.Gap
import ClusterSim.Yaml.Node
import ClusterSim.Yaml.Number
import ClusterSim.Yaml.Property
import ClusterSim.Yaml.Scalar.Block
import ClusterSim.Yaml.Scalar.Plain
import ClusterSim.Yaml.Scalar.Quoted
import ClusterSim.Yaml.Tag
import ClusterSim.Yaml.Token
import ClusterSim.Yaml.Token.Lexer
import ClusterSim.Yaml.Value
import ClusterSim.Proofs.Tick.Step
import ClusterSim.Proofs.Tick.Course
import ClusterSim.Proofs.Tick.Failure
import ClusterSim.Proofs.Tick.Ledgers
import ClusterSim.Proofs.Tick.Conservation
import ClusterSim.Proofs.Simulation.Iteration
import ClusterSim.Proofs.Simulation.Rounds
import ClusterSim.Proofs.Simulation.Ending
import ClusterSim.Proofs.Queue.Order
import ClusterSim.Proofs.Tick.Retry
import ClusterSim.Proofs.Simulation.Accounts
import ClusterSim.Proofs.Simulation.Conclusion
import ClusterSim.Proofs.TimeSource.Delivery
import ClusterSim.Proofs.Simulation.Schedule
import ClusterSim.Proofs.Queue.Pending
import ClusterSim.Proofs.Tick.Pending
import ClusterSim.Proofs.Tick.Precedence
import ClusterSim.Proofs.Tick.Blocking
import ClusterSim.Proofs.Tick.Settling
import ClusterSim.Proofs.Tick.Atomicity
import ClusterSim.Proofs.Queue.Numbers
import ClusterSim.Proofs.Tick.SourceOrder
import ClusterSim.Proofs.Tick.Counting
import ClusterSim.Proofs.Tick.Specification
import ClusterSim.Proofs.Metrics
import ClusterSim.Proofs.Text.Blank
import ClusterSim.Proofs.Text.Numeral
import ClusterSim.Proofs.PodId
import ClusterSim.Proofs.Time.Calendar
import ClusterSim.Proofs.Time.Reading
import ClusterSim.Proofs.Time.Lenient
import ClusterSim.Proofs.Export
import ClusterSim.Proofs.Quantity.Value
import ClusterSim.Proofs.Time.Instant
import ClusterSim.Proofs.TimeSource.Session
import ClusterSim.Proofs.Choice.Score
import ClusterSim.Proofs.Quantity.Capacity
import ClusterSim.Proofs.Config
import ClusterSim.Proofs.Resources.Residuation
import ClusterSim.Proofs.Resources.Total
import ClusterSim.Proofs.Time.Advance
import ClusterSim.Proofs.Workload.Draw
import ClusterSim.Proofs.Workload.Random
import ClusterSim.Proofs.Time.Notation
import ClusterSim.Proofs.Time.Rfc3339
import ClusterSim.Proofs.Time.Start

import UsageReports.Calendar.Date
import UsageReports.Calendar.Instant
import UsageReports.Calendar.InstantText
import UsageReports.Calendar.Month
import UsageReports.Calendar.MonthText
import UsageReports.Calendar.RangeError
import UsageReports.Console.Command
import UsageReports.Console.CommandError
import UsageReports.Console.DatabaseText
import UsageReports.Console.Disk
import UsageReports.Console.Grammar
import UsageReports.Console.Help
import UsageReports.Console.Program
import UsageReports.Console.World
import UsageReports.Data.Keyed
import UsageReports.Data.Shortest
import UsageReports.Data.Sorted
import UsageReports.Data.Tree
import UsageReports.Failure
import UsageReports.FailureKind
import UsageReports.Harvest.Catalog
import UsageReports.Harvest.FetchError
import UsageReports.Harvest.HttpReport
import UsageReports.Harvest.HttpSource
import UsageReports.Harvest.ProviderRun
import UsageReports.Harvest.Reply
import UsageReports.Harvest.Run
import UsageReports.Harvest.Script
import UsageReports.Harvest.Timeline
import UsageReports.Harvest.Work
import UsageReports.Job.Harvester
import UsageReports.Job.JobError
import UsageReports.Job.Progress
import UsageReports.Job.Registry
import UsageReports.Job.Service
import UsageReports.Job.Summary
import UsageReports.Job.SummaryJson
import UsageReports.Json.Number
import UsageReports.Json.Reader
import UsageReports.Json.Value
import UsageReports.Json.Writer
import UsageReports.Main
import UsageReports.Metrics
import UsageReports.Pace.Backoff
import UsageReports.Pace.Limit
import UsageReports.Pace.Retry
import UsageReports.Plan.Gap
import UsageReports.Plan.Packing
import UsageReports.Plan.Range
import UsageReports.Provider
import UsageReports.Record
import UsageReports.Settings.Settings
import UsageReports.Settings.Sources
import UsageReports.Settings.Written
import UsageReports.Store.Directory
import UsageReports.Store.RecordArchive
import UsageReports.Store.RecordStore
import UsageReports.Store.RecordTable
import UsageReports.Store.Records
import UsageReports.Store.StoreError
import UsageReports.Store.TriggerArchive
import UsageReports.Store.TriggerStore
import UsageReports.Store.TriggerTable
import UsageReports.Store.Triggers
import UsageReports.Text.Blank
import UsageReports.Text.CanonicalTable
import UsageReports.Text.CharTable
import UsageReports.Text.Charset
import UsageReports.Text.Composed
import UsageReports.Text.Lowercase
import UsageReports.Text.Numeral
import UsageReports.Text.Quoted
import UsageReports.Text.Split
import UsageReports.Toml.Reader
import UsageReports.Toml.Scalar
import UsageReports.Toml.Text
import UsageReports.Trigger.Clock
import UsageReports.Trigger.Interval
import UsageReports.Trigger.Rule
import UsageReports.Trigger.Scheduler
import UsageReports.Trigger.Trigger
import UsageReports.Trigger.TriggerError
import UsageReports.Trigger.TriggerJson
import UsageReports.Web.Address
import UsageReports.Web.Direction
import UsageReports.Web.Domain
import UsageReports.Web.DomainTable
import UsageReports.Web.Exchange
import UsageReports.Web.Host
import UsageReports.Web.Percent
import UsageReports.Web.Punycode
import UsageReports.Web.ScriptTable
import UsageReports.Web.Site
import UsageReports.Web.Url
import UsageReports.Web.UrlText
import UsageReports.Proofs.Calendar.Interval
import UsageReports.Proofs.Data.Sorting
import UsageReports.Proofs.Data.SortedSet
import UsageReports.Proofs.Plan.Coverage
import UsageReports.Proofs.Plan.Gap
import UsageReports.Proofs.Data.DistinctKeys
import UsageReports.Proofs.Store.Lookup
import UsageReports.Proofs.Harvest.Tallies
import UsageReports.Proofs.Harvest.Course
import UsageReports.Proofs.Harvest.Filing
import UsageReports.Proofs.Harvest.ExactlyOnce
import UsageReports.Proofs.Harvest.Sequential
import UsageReports.Proofs.Harvest.Timeline
import UsageReports.Proofs.Store.Writing
import UsageReports.Proofs.Plan.Stored
import UsageReports.Proofs.Harvest.ProviderCall
import UsageReports.Proofs.Harvest.Convergence
import UsageReports.Proofs.Harvest.Writes
import UsageReports.Proofs.Settings.Declared
import UsageReports.Proofs.Harvest.Isolation
import UsageReports.Proofs.Calendar.DayNumber
import UsageReports.Proofs.Trigger.NextFire
import UsageReports.Proofs.Trigger.Occurrence
import UsageReports.Proofs.Trigger.Resumption
import UsageReports.Proofs.Store.TriggerContents
import UsageReports.Proofs.Trigger.Course
import UsageReports.Proofs.Trigger.Delivery
import UsageReports.Proofs.Trigger.OneTimer
import UsageReports.Proofs.Trigger.Missing
import UsageReports.Proofs.Trigger.Operations
import UsageReports.Proofs.Job.Admission
import UsageReports.Proofs.Job.Lifecycle
import UsageReports.Proofs.Job.Idle
import UsageReports.Proofs.Job.Deletion
import UsageReports.Proofs.Job.Course
import UsageReports.Proofs.Job.Running
import UsageReports.Proofs.Job.Accounting
import UsageReports.Proofs.Job.Turns
import UsageReports.Proofs.Job.Periodic
import UsageReports.Proofs.Job.History
import UsageReports.Proofs.Store.Listing
import UsageReports.Proofs.Store.Findings
import UsageReports.Proofs.Harvest.Throttling
import UsageReports.Proofs.Harvest.Errands
import UsageReports.Proofs.Harvest.Trace
import UsageReports.Proofs.Harvest.Calls
import UsageReports.Proofs.Text.Numeral
import UsageReports.Proofs.Calendar.MonthText
import UsageReports.Proofs.Calendar.InstantText
import UsageReports.Proofs.Store.RecordContents
import UsageReports.Proofs.Store.DatabaseFile
import UsageReports.Proofs.Store.RecordFile
import UsageReports.Proofs.Store.TriggerFile
import UsageReports.Proofs.Plan.Packed
import UsageReports.Proofs.Plan.Fewest
import UsageReports.Proofs.Trigger.Earliest
import UsageReports.Proofs.Trigger.Preview
import UsageReports.Proofs.Harvest.Accepting
import UsageReports.Proofs.Harvest.ServerAnswer
import UsageReports.Proofs.Harvest.Answers
import UsageReports.Proofs.Harvest.Statistics
import UsageReports.Proofs.Store.OwnRow
import UsageReports.Proofs.Text.Spelling
import UsageReports.Proofs.Calendar.MonthGrammar
import UsageReports.Proofs.Calendar.Partition
import UsageReports.Proofs.Json.Quoted
import UsageReports.Proofs.Json.Numeral
import UsageReports.Proofs.Json.Number
import UsageReports.Proofs.Json.Document
import UsageReports.Proofs.Json.Fields
import UsageReports.Proofs.Json.RecordForm
import UsageReports.Proofs.Text.ByteOrder
import UsageReports.Proofs.Settings.Directory
import UsageReports.Proofs.Calendar.Enumeration
import UsageReports.Proofs.Pace.Trying

import RateSweep.Breakdown
import RateSweep.CommandLine
import RateSweep.Comparison.Bins
import RateSweep.Comparison.Grouping
import RateSweep.Comparison.IdleTime
import RateSweep.Comparison.Report
import RateSweep.Csv.Reader
import RateSweep.Csv.Writer
import RateSweep.Design
import RateSweep.Disk.Error
import RateSweep.Disk.FileTree
import RateSweep.Disk.Path
import RateSweep.Experiment
import RateSweep.Experiment.Name
import RateSweep.Histogram
import RateSweep.Inspection.Connections
import RateSweep.Inspection.Focus
import RateSweep.Inspection.QueueSeries
import RateSweep.Intake
import RateSweep.Log.Balancer
import RateSweep.Log.Body
import RateSweep.Log.Client
import RateSweep.Log.Cluster
import RateSweep.Log.Queue
import RateSweep.Log.Row
import RateSweep.Main
import RateSweep.Number.Decimal
import RateSweep.Number.Hexadecimal
import RateSweep.Number.Integer
import RateSweep.Number.Nanos
import RateSweep.Pattern.Atom
import RateSweep.Pattern.Bracket
import RateSweep.Pattern.Wellformed
import RateSweep.Proofs.ActiveWindow
import RateSweep.Proofs.Activities
import RateSweep.Proofs.BinOperations
import RateSweep.Proofs.Bins
import RateSweep.Proofs.ClientMetrics
import RateSweep.Proofs.ClientSummaries
import RateSweep.Proofs.ClientTallies
import RateSweep.Proofs.Comparison
import RateSweep.Proofs.CompletenessGate
import RateSweep.Proofs.ConnectionGroups
import RateSweep.Proofs.CountedFolds
import RateSweep.Proofs.Directives
import RateSweep.Proofs.DirectoryIntake
import RateSweep.Proofs.Distributions
import RateSweep.Proofs.DocumentReferences
import RateSweep.Proofs.EncodedText
import RateSweep.Proofs.FileFate
import RateSweep.Proofs.FilteredCopies
import RateSweep.Proofs.FilteredRows
import RateSweep.Proofs.FiniteQuotients
import RateSweep.Proofs.FirstRow
import RateSweep.Proofs.FoldedRows
import RateSweep.Proofs.GateAgreement
import RateSweep.Proofs.Histograms
import RateSweep.Proofs.IdleTables
import RateSweep.Proofs.JoinedUsers
import RateSweep.Proofs.KeptResults
import RateSweep.Proofs.LineEnds
import RateSweep.Proofs.LogNames
import RateSweep.Proofs.MadeDirectories
import RateSweep.Proofs.MemoryBounds
import RateSweep.Proofs.NameFamilies
import RateSweep.Proofs.NameSegments
import RateSweep.Proofs.NodeHistory
import RateSweep.Proofs.NodeIndependence
import RateSweep.Proofs.NodeRun
import RateSweep.Proofs.OutputNames
import RateSweep.Proofs.PatternReading
import RateSweep.Proofs.QueueColumns
import RateSweep.Proofs.QueueTables
import RateSweep.Proofs.ReachedSnapshots
import RateSweep.Proofs.ReaderAgreement
import RateSweep.Proofs.RecordScan
import RateSweep.Proofs.RefusedInput
import RateSweep.Proofs.RepeatedRun
import RateSweep.Proofs.Report
import RateSweep.Proofs.Results
import RateSweep.Proofs.RowForms
import RateSweep.Proofs.RowLengths
import RateSweep.Proofs.RowReading
import RateSweep.Proofs.ScannerProgress
import RateSweep.Proofs.SequentialWork
import RateSweep.Proofs.SessionRuns
import RateSweep.Proofs.SettingsChecks
import RateSweep.Proofs.SettingsFiles
import RateSweep.Proofs.SnapshotLanguage
import RateSweep.Proofs.SnapshotSpacing
import RateSweep.Proofs.SourceLogs
import RateSweep.Proofs.StableSort
import RateSweep.Proofs.TableText
import RateSweep.Proofs.TaskPlans
import RateSweep.Proofs.TaskSteps
import RateSweep.Proofs.TransferCounts
import RateSweep.Proofs.TreeWrites
import RateSweep.Proofs.TrimmedText
import RateSweep.Proofs.Walks
import RateSweep.Proofs.WrittenRecords
import RateSweep.Proofs.YamlRecords
import RateSweep.Session
import RateSweep.SettingsFile
import RateSweep.Steps
import RateSweep.Summary.Balancer
import RateSweep.Summary.Client
import RateSweep.Summary.Cluster
import RateSweep.Summary.File
import RateSweep.Table.RateTable
import RateSweep.Table.RequestCounts
import RateSweep.Task
import RateSweep.Text.Alphabetic
import RateSweep.Text.Alphanumeric
import RateSweep.Text.Blank
import RateSweep.Text.Numeric
import RateSweep.Text.Offset
import RateSweep.Text.Quoted
import RateSweep.Text.Ranges
import RateSweep.Text.Segments
import RateSweep.Text.Unprintable
import RateSweep.Text.Utf8
import RateSweep.Verbosity
import RateSweep.Yaml.Cursor
import RateSweep.Yaml.Node
import RateSweep.Yaml.Scalar
import RateSweep.Yaml.Tag
import RateSweep.Yaml.Token
import RateSweep.Yaml.Value

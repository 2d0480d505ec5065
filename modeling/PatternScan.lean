import PatternScan.Main
import PatternScan.Record.Columns
import PatternScan.Source.Memory
import PatternScan.Proofs.Highlight.Ownership
import PatternScan.Proofs.Analysis.LiveRequest
import PatternScan.Proofs.Extract.SequenceSchema
import PatternScan.Proofs.Source.RecordCache
import PatternScan.Proofs.Script.JoinedName
import PatternScan.Proofs.Script.PlotSchema
import PatternScan.Proofs.Analysis.Extractors
import PatternScan.Proofs.Match.Arrival
import PatternScan.Analysis.Reception
import PatternScan.Proofs.Analysis.Arrival
import PatternScan.Proofs.Analysis.Ledger
import PatternScan.Proofs.Analysis.Bookkeeping
import PatternScan.Proofs.Analysis.LatestResult
import PatternScan.Proofs.Script.Families
import PatternScan.Proofs.Highlight.HandedOut
import PatternScan.Proofs.Analysis.Settings
import PatternScan.Proofs.Extract.PlotNumbers
import PatternScan.Proofs.Analysis.Progress
import PatternScan.Proofs.Analysis.Alone
import PatternScan.Proofs.Analysis.Settling
import PatternScan.Proofs.Source.FileLines
import PatternScan.Proofs.Command.Findings
import PatternScan.Proofs.Command.SequentialScan
import PatternScan.Proofs.Source.FilteredRecords
import PatternScan.Proofs.Source.BrokenRefresh
import PatternScan.Proofs.Source.ColumnFields
import PatternScan.Proofs.Command.HighlightedLine
import PatternScan.Proofs.Extract.JoinedValue
import PatternScan.Proofs.Analysis.WorkerEvents
import PatternScan.Proofs.Analysis.RequestNumbers
import PatternScan.Proofs.Analysis.CallTypes
import PatternScan.Proofs.Script.RoleExpression
import PatternScan.Proofs.Analysis.ProgressPercent
import PatternScan.Proofs.Script.ParameterCheck
import PatternScan.Proofs.Analysis.PartSizes
import PatternScan.Proofs.Gradient
import PatternScan.Proofs.Match.WalkOrder

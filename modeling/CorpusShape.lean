import CorpusShape.Analysis
import CorpusShape.CallGraph
import CorpusShape.CommandLine
import CorpusShape.Config
import CorpusShape.Json.Reader
import CorpusShape.Json.Writer
import CorpusShape.Main
import CorpusShape.Module.Extract
import CorpusShape.Report.Console
import CorpusShape.Report.Json
import CorpusShape.Report.Markdown
import CorpusShape.Scan
import CorpusShape.Value.OfJson
import CorpusShape.Proofs.ExportMemory
import CorpusShape.Proofs.ExportHistories
import CorpusShape.Proofs.Tables
import CorpusShape.Proofs.Targets
import CorpusShape.Proofs.Ledgers
import CorpusShape.Proofs.Passes
import CorpusShape.Proofs.Credits
import CorpusShape.Proofs.Doubles
import CorpusShape.Proofs.BoundNames
import CorpusShape.Proofs.CallBalance
import CorpusShape.Proofs.ExportSets
import CorpusShape.Proofs.SameModules
import CorpusShape.Proofs.Rankings
import CorpusShape.Proofs.OrderIndependence
import CorpusShape.Proofs.ReexportSteps
import CorpusShape.Proofs.ReexportWalks
import CorpusShape.Proofs.Shadowing
import CorpusShape.Proofs.SharedParts
import CorpusShape.Proofs.Barrels
import CorpusShape.Proofs.SharedTargets
import CorpusShape.Proofs.Isolation
import CorpusShape.Proofs.Hoisting
import CorpusShape.Proofs.CallPlaces
import CorpusShape.Proofs.MirroredTrees
import CorpusShape.Proofs.SameOutside
import CorpusShape.Proofs.Encapsulation
import CorpusShape.Proofs.LocalNames
import CorpusShape.Proofs.DroppedStatements
import CorpusShape.Proofs.BlockDeclarations
import CorpusShape.Proofs.Signs
import CorpusShape.Proofs.Scores
import CorpusShape.Proofs.Extents
import CorpusShape.Proofs.FileWalks
import CorpusShape.Proofs.Loading
import CorpusShape.Proofs.AnalysisOutcome
import CorpusShape.Proofs.Merging
import CorpusShape.Proofs.StackedFields
import CorpusShape.Proofs.SettingRecords
import CorpusShape.Proofs.SettingSources
import CorpusShape.Proofs.CleanPaths
import CorpusShape.Proofs.Specifiers
import CorpusShape.Proofs.MemberCalls
import CorpusShape.Proofs.SpecialDoubles
import CorpusShape.Proofs.FiniteScores
import CorpusShape.Proofs.RatedRankings
import CorpusShape.Proofs.ScannedFiles
import CorpusShape.Proofs.OutgoingCalls
import CorpusShape.Proofs.CommentedTrees
import CorpusShape.Proofs.ModuleShapes
import CorpusShape.Proofs.MergedPaths
import CorpusShape.Proofs.WrittenFiles
import CorpusShape.Proofs.Sessions
import CorpusShape.Proofs.WrittenReports
import CorpusShape.Proofs.PictureCodes
import CorpusShape.Proofs.PlainMarkup
import CorpusShape.Proofs.ShownFailures
import CorpusShape.Proofs.YamlFaults
import CorpusShape.Proofs.ConfigContent
import CorpusShape.Proofs.FirstFaults
import CorpusShape.Proofs.ScopeHistories
import CorpusShape.Proofs.HoistOrders
import CorpusShape.Proofs.WrappedCallees

import FeatureScan.Disk
import FeatureScan.Main
import FeatureScan.Store.Memory
import FeatureScan.Proofs.AnalysisCheck
import FeatureScan.Proofs.DerivedOutcomes
import FeatureScan.Proofs.DetectedFeatures
import FeatureScan.Proofs.Json.Admits
import FeatureScan.Proofs.OutcomeInvariant
import FeatureScan.Proofs.Json.Scalars
import FeatureScan.Proofs.Json.RoundTrip
import FeatureScan.Proofs.CalendarDays
import FeatureScan.Proofs.InstantText
import FeatureScan.Proofs.InstantReading
import FeatureScan.Proofs.KeptCodec
import FeatureScan.Proofs.ReadEntries
import FeatureScan.Proofs.ReportRoundTrip
import FeatureScan.Proofs.StoreMap
import FeatureScan.Proofs.KeptLists
import FeatureScan.Proofs.StoreRuns
import FeatureScan.Proofs.HistoryRuns
import FeatureScan.Proofs.BookmarkRuns
import FeatureScan.Proofs.StoredLists
import FeatureScan.Proofs.Pattern.Matches
import FeatureScan.Proofs.Pattern.Search
import FeatureScan.Proofs.Pattern.Reach
import FeatureScan.Proofs.Pattern.Lines
import FeatureScan.Proofs.LineGuard
import FeatureScan.Proofs.BuiltinTables
import FeatureScan.Proofs.CatalogReading
import FeatureScan.Proofs.Pattern.Families
import FeatureScan.Proofs.Pattern.Words
import FeatureScan.Proofs.RejectedWords
import FeatureScan.Proofs.AwaitedLines
import FeatureScan.Proofs.Pattern.Case
import FeatureScan.Proofs.LetterCase
import FeatureScan.Proofs.JoinedSnippets
import FeatureScan.Proofs.Folder
import FeatureScan.Proofs.FolderStore
import FeatureScan.Proofs.StoreAgreement
import FeatureScan.Proofs.FileStoreRuns
import FeatureScan.Proofs.InterruptedSet
import FeatureScan.Proofs.ShareLinks
import FeatureScan.Proofs.Text.Canonical
import FeatureScan.Proofs.CanonicalLinks
import FeatureScan.Proofs.DatasetInfluence
import FeatureScan.Proofs.Reacceptance
import FeatureScan.Machine
import FeatureScan.Proofs.CommandEffects
import FeatureScan.Proofs.MachineEffects
import FeatureScan.Proofs.CommandTraces
import FeatureScan.Proofs.BookmarkChanges
import FeatureScan.Proofs.HistoryRaces
import FeatureScan.Proofs.TwinRuns
import FeatureScan.Proofs.AnalysisOutput
import FeatureScan.Proofs.DerivedOutcomes
import FeatureScan.Proofs.Pages
import FeatureScan.Proofs.Pattern.Cut
import FeatureScan.Proofs.Pattern.EscapedWords
import FeatureScan.Proofs.UnrejectedMatches
import FeatureScan.Proofs.Registrations
import FeatureScan.Proofs.Rounding
import FeatureScan.Proofs.Scores
import FeatureScan.Proofs.Text.LowerCase
import FeatureScan.Proofs.LiteralSearch
import FeatureScan.Proofs.SpecialFeatures
import FeatureScan.Proofs.ReportLines
import FeatureScan.Proofs.MarkdownReports
import FeatureScan.Proofs.DatasetReading
import FeatureScan.Proofs.ReferencePages
import FeatureScan.Proofs.Pattern.Blanks
import FeatureScan.Proofs.Text.Returns
import FeatureScan.Proofs.Pattern.Runs
import FeatureScan.Proofs.Pattern.Returns
import FeatureScan.Proofs.BlankSnippets
import FeatureScan.Proofs.ListLines
import FeatureScan.Proofs.Pattern.Stretches
import FeatureScan.Proofs.LoopHeads
import FeatureScan.Proofs.LineEndings
import FeatureScan.Proofs.Pattern.Ends
import FeatureScan.Pattern.ByteSearch
import FeatureScan.Proofs.Pattern.ByteSearch
import FeatureScan.Proofs.DisplayNames
import FeatureScan.Proofs.DrawingContexts

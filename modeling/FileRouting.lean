import FileRouting.Main
import FileRouting.Proofs.Namespace
import FileRouting.Proofs.Nesting
import FileRouting.Proofs.Contests
import FileRouting.Proofs.ManifestEntries
import FileRouting.Proofs.Reattachment
import FileRouting.Proofs.Survivors
import FileRouting.Proofs.BuildResult
import FileRouting.Proofs.NearestAncestor
import FileRouting.Proofs.CollationOrder
import FileRouting.Proofs.FirstWins
import FileRouting.Proofs.FullPaths
import FileRouting.Proofs.BuildReport
import FileRouting.Proofs.TrieRuns
import FileRouting.Proofs.InputOrder
import FileRouting.Proofs.Conservation
import FileRouting.Proofs.Rebuild
import FileRouting.Proofs.KeptWinners
import FileRouting.Proofs.PathsBelow
import FileRouting.Proofs.ScanReport
import FileRouting.Proofs.ListingOrder
import FileRouting.Proofs.RoutesRoot
import FileRouting.Proofs.SpelledScan
import FileRouting.Proofs.DirectorySpelling
import FileRouting.Proofs.JsonTokens
import FileRouting.Proofs.JsonValues
import FileRouting.Proofs.ManifestTexts
import FileRouting.Proofs.BuildFailure
import FileRouting.Proofs.AddedItem
import FileRouting.Proofs.AddedRoute
import FileRouting.Proofs.LosslessScan
import FileRouting.Proofs.CheckCommand
import FileRouting.Proofs.ForbiddenCharacters
import FileRouting.Proofs.WrittenSegments
import FileRouting.Proofs.JoinedIds
import FileRouting.Proofs.EscapedIds
import FileRouting.Proofs.UrlMarks
import FileRouting.Proofs.CollationLevels
import FileRouting.Proofs.EmptyComponents
import FileRouting.Proofs.FolderUrls
import FileRouting.Proofs.FirstSurvivor
import FileRouting.Proofs.OutlineOrder
import FileRouting.Proofs.ExtraPatterns

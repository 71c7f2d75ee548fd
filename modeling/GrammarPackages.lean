import GrammarPackages.Files.Edit
import GrammarPackages.Package.Installed
import GrammarPackages.Grammar.StandIn
import GrammarPackages.Proofs.BuildRun
import GrammarPackages.Proofs.LoadOutcome
import GrammarPackages.Proofs.LastDeclaration
import GrammarPackages.Proofs.PlainView
import GrammarPackages.Proofs.PathJoin
import GrammarPackages.Proofs.RootMerge
import GrammarPackages.Proofs.HostShadowing
import GrammarPackages.Proofs.CacheHistory
import GrammarPackages.Proofs.CacheRun
import GrammarPackages.Proofs.PathParent
import GrammarPackages.Proofs.PackageNames
import GrammarPackages.Proofs.ManifestShape
import GrammarPackages.Proofs.JsonText
import GrammarPackages.Proofs.ManifestText
import GrammarPackages.Proofs.Respelling
import GrammarPackages.Proofs.AlikeRoots
import GrammarPackages.Proofs.FailedOpening
import GrammarPackages.Proofs.Reloading
import GrammarPackages.Proofs.RootExtension
import GrammarPackages.Proofs.SurroundingRoots
import GrammarPackages.Proofs.MergeOrder
import GrammarPackages.Proofs.LibrarySearch
import GrammarPackages.Proofs.LibraryContainment
import GrammarPackages.Proofs.GrammarSharing
import GrammarPackages.Proofs.LibrarySpelling
import GrammarPackages.Proofs.DirectoryNames
import GrammarPackages.Proofs.SlashedNames
import GrammarPackages.Proofs.LoadReports
import GrammarPackages.Proofs.LookupDirectories
import GrammarPackages.Proofs.MergeLayers
import GrammarPackages.Proofs.RepeatedRoots
import GrammarPackages.Proofs.FieldFaults
import GrammarPackages.Proofs.FirstSpellings
import GrammarPackages.Proofs.ManifestFaults

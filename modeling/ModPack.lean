import ModPack.Catalogue
import ModPack.Cause
import ModPack.Main
import ModPack.Workshop
import ModPack.Proofs.BegunPackages
import ModPack.Proofs.CatalogueRuns
import ModPack.Proofs.CauseChains
import ModPack.Proofs.Cycles
import ModPack.Proofs.DeclarationOrder
import ModPack.Proofs.DependencyExports
import ModPack.Proofs.DependencyOrder
import ModPack.Proofs.FailedBuilds
import ModPack.Proofs.IndependentAssemblies
import ModPack.Proofs.IndexLimits
import ModPack.Proofs.InheritedActors
import ModPack.Proofs.LoadFailures
import ModPack.Proofs.ManifestRoundTrip
import ModPack.Proofs.NameClashes
import ModPack.Proofs.NameRules
import ModPack.Proofs.NamedSlots
import ModPack.Proofs.NearestPackage
import ModPack.Proofs.OwnOverrides
import ModPack.Proofs.Rebuilding
import ModPack.Proofs.ResolvedLines
import ModPack.Proofs.RestoredLines
import ModPack.Proofs.ScriptBlocks
import ModPack.Proofs.ScriptFiles
import ModPack.Proofs.SecondBuild
import ModPack.Proofs.VersionConflicts
import ModPack.Proofs.WordLayout

import Migration.Main
import Migration.Proofs.Blueprint.DistinctNames
import Migration.Proofs.Blueprint.Indexed
import Migration.Proofs.Blueprint.KeyReferences
import Migration.Proofs.Blueprint.PolymorphicKey
import Migration.Proofs.Change.Agreement
import Migration.Proofs.Change.Alterations
import Migration.Proofs.Change.BothWays
import Migration.Proofs.Change.Effectless
import Migration.Proofs.Change.KeyColumns
import Migration.Proofs.Change.Markers
import Migration.Proofs.Change.Orderly
import Migration.Proofs.Change.Rekeying
import Migration.Proofs.Change.RemovedIndex
import Migration.Proofs.Change.Renamings
import Migration.Proofs.Disk.Listing
import Migration.Proofs.Naming
import Migration.Proofs.Plan.Broken
import Migration.Proofs.Plan.Complete
import Migration.Proofs.Plan.Documents
import Migration.Proofs.Plan.FileNames
import Migration.Proofs.Plan.References
import Migration.Proofs.Plan.Renderable
import Migration.Proofs.Plan.Unrelated
import Migration.Proofs.Blueprint.WellBuilt
import Migration.Proofs.Pivot.Counterpart
import Migration.Proofs.Pivot.JoinColumns
import Migration.Proofs.Pivot.MorphColumns
import Migration.Proofs.Pivot.MorphOwner
import Migration.Proofs.Pivot.Paired

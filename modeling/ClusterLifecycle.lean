import ClusterLifecycle.Main
import ClusterLifecycle.World.Script
import ClusterLifecycle.World.Trial
import ClusterLifecycle.Proofs.Convergence
import ClusterLifecycle.Proofs.Histories
import ClusterLifecycle.Proofs.Provisioning
import ClusterLifecycle.Proofs.Agreement
import ClusterLifecycle.Proofs.Outliving
import ClusterLifecycle.Proofs.Sharing
import ClusterLifecycle.Proofs.Dismantling
import ClusterLifecycle.Proofs.Evidence
import ClusterLifecycle.Proofs.Leftovers
import ClusterLifecycle.Proofs.Independence
import ClusterLifecycle.Proofs.Dependencies
import ClusterLifecycle.Proofs.Growth
import ClusterLifecycle.Proofs.Revocation
import ClusterLifecycle.Proofs.Custody
import ClusterLifecycle.Proofs.Crashes
import ClusterLifecycle.Proofs.RecordMaps
import ClusterLifecycle.Proofs.Retrying
import ClusterLifecycle.Proofs.Confinement
import ClusterLifecycle.Proofs.Directories
import ClusterLifecycle.Proofs.Bookkeeping
import ClusterLifecycle.Proofs.Renewal
import ClusterLifecycle.Proofs.CloudsFile
import ClusterLifecycle.Proofs.Selectors
import ClusterLifecycle.Proofs.Waiting
import ClusterLifecycle.Proofs.ApiAddress
import ClusterLifecycle.Proofs.BaseAddress
import ClusterLifecycle.Proofs.Reasons
import ClusterLifecycle.Proofs.Namesakes
import ClusterLifecycle.Proofs.StatusTexts

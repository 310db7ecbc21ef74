import Gascan.Backend.AppleAttach
import Gascan.Core.StartupDiagnostic
import Gascan.Proofs.Activity
import Gascan.Proofs.Alias
import Gascan.Proofs.ArchiveOrder
import Gascan.Proofs.Attach
import Gascan.Proofs.Bundle
import Gascan.Proofs.Confinement
import Gascan.Proofs.Creation
import Gascan.Proofs.Diagnostic
import Gascan.Proofs.Evidence
import Gascan.Proofs.Fetch
import Gascan.Proofs.Forge
import Gascan.Proofs.History
import Gascan.Proofs.Image
import Gascan.Proofs.InstanceRecord
import Gascan.Proofs.Locks
import Gascan.Proofs.Logs
import Gascan.Proofs.Migration
import Gascan.Proofs.Operation
import Gascan.Proofs.Ownership
import Gascan.Proofs.Quarantine
import Gascan.Proofs.Removals
import Gascan.Proofs.Rollback
import Gascan.Proofs.Rows
import Gascan.Proofs.SandboxId
import Gascan.Proofs.SshConfig
import Gascan.Proofs.SshHosts
import Gascan.Proofs.Status

import RoleVault.Access.Fields
import RoleVault.Access.Gate
import RoleVault.Accounts.Catalog
import RoleVault.Accounts.Sessions
import RoleVault.CommandLine.Program
import RoleVault.Main
import RoleVault.Proofs.Access.Fields
import RoleVault.Proofs.Access.Grammar
import RoleVault.Proofs.Access.Privilege
import RoleVault.Proofs.Accounts.Deletion
import RoleVault.Proofs.Accounts.Escalation
import RoleVault.Proofs.Accounts.Failure
import RoleVault.Proofs.Accounts.Integrity
import RoleVault.Proofs.Accounts.Lifetime
import RoleVault.Proofs.Accounts.Listing
import RoleVault.Proofs.Accounts.Migration
import RoleVault.Proofs.Accounts.OperatorGroup
import RoleVault.Proofs.Accounts.Patch
import RoleVault.Proofs.Accounts.Refusal
import RoleVault.Proofs.Accounts.Reordering
import RoleVault.Proofs.Accounts.Retention
import RoleVault.Proofs.Accounts.Sweep
import RoleVault.Proofs.Files.Descent
import RoleVault.Proofs.Files.Directories
import RoleVault.Proofs.Files.Repetition
import RoleVault.Proofs.Files.Tree
import RoleVault.Proofs.Json.Attempt
import RoleVault.Proofs.Json.Decode
import RoleVault.Proofs.Session.Acceptance
import RoleVault.Proofs.Session.Claims
import RoleVault.Proofs.Session.Registered
import RoleVault.Proofs.Session.Token
import RoleVault.Proofs.Settings.Layer
import RoleVault.Proofs.Settings.Precedence
import RoleVault.Proofs.Settings.Validity
import RoleVault.Proofs.Vault.Confinement
import RoleVault.Proofs.Vault.Crowd
import RoleVault.Proofs.Vault.Dominance
import RoleVault.Proofs.Vault.Exactness
import RoleVault.Proofs.Vault.Interleaving
import RoleVault.Proofs.Vault.KeyFiles
import RoleVault.Proofs.Vault.KeySetup
import RoleVault.Proofs.Vault.Noting
import RoleVault.Proofs.Vault.Refinement
import RoleVault.Proofs.Vault.Residue
import RoleVault.Proofs.Vault.ScratchProtocol
import RoleVault.Proofs.Vault.Sharing
import RoleVault.Proofs.Vault.Site
import RoleVault.Proofs.Vault.ToolOutcomes
import RoleVault.Proofs.Vault.Tools
import RoleVault.Session.Token
import RoleVault.Settings.Load
import RoleVault.Store.Describe
import RoleVault.Store.Edit
import RoleVault.Vault.InProcess

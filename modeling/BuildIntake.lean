import BuildIntake.Json.Printer
import BuildIntake.Proofs.Build.Annotations
import BuildIntake.Proofs.Build.Commands
import BuildIntake.Proofs.Build.Declaration
import BuildIntake.Proofs.Build.Influence
import BuildIntake.Proofs.Build.Link
import BuildIntake.Proofs.Build.Merged
import BuildIntake.Proofs.Build.Respelling
import BuildIntake.Proofs.Build.Variables
import BuildIntake.Proofs.Delay.Spelling
import BuildIntake.Proofs.Hook.Collection
import BuildIntake.Proofs.Hook.Strictness
import BuildIntake.Proofs.Job.Loading
import BuildIntake.Proofs.Queue.Summary
import BuildIntake.Proofs.Reconciliation.Conformance
import BuildIntake.Proofs.Reconciliation.Exchange
import BuildIntake.Proofs.Service.Naming
import BuildIntake.Proofs.Service.Rejections

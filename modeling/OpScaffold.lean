import OpScaffold.Main
import OpScaffold.Proofs.Effect
import OpScaffold.Proofs.Rollback
import OpScaffold.Proofs.Spelling
import OpScaffold.Proofs.Template.Mark
import OpScaffold.Proofs.Exemplar
import OpScaffold.Proofs.HostFile.Append
import OpScaffold.Proofs.HostFile.Layout
import OpScaffold.Proofs.HostFile.Extension
import OpScaffold.Proofs.HostFile.Registration
import OpScaffold.Proofs.Registry
import OpScaffold.Proofs.Files.Takes
import OpScaffold.Proofs.Success
import OpScaffold.Proofs.Independence
import OpScaffold.Proofs.HostFile.Rereading
import OpScaffold.Proofs.Survival
import OpScaffold.Proofs.Forecast
import OpScaffold.Proofs.Repetition
import OpScaffold.Proofs.HostFile.Partition
import OpScaffold.Proofs.Exemplar.Reversal
import OpScaffold.Proofs.Exemplar.Infix
import OpScaffold.Proofs.Frame
import OpScaffold.Proofs.Duplication
import OpScaffold.Proofs.HostFile.OwnLines
import OpScaffold.Proofs.Reporting
import OpScaffold.Proofs.Permutation
import OpScaffold.Proofs.Registry.Applicability
import OpScaffold.Proofs.Registry.Sampling
import OpScaffold.Proofs.Crlf
import OpScaffold.Proofs.Runs
import OpScaffold.Proofs.HostFile.Concatenation

import Admission.Main
import Admission.Proofs.Client.Answers
import Admission.Proofs.Client.ReadBack
import Admission.Proofs.Client.Submission
import Admission.Proofs.Daemon.Discretion
import Admission.Proofs.Daemon.Token
import Admission.Proofs.Form.Blame
import Admission.Proofs.Form.Canonical
import Admission.Proofs.Form.Lifetime
import Admission.Proofs.Form.Spelling
import Admission.Proofs.Form.Unchecked
import Admission.Proofs.Http.Failures
import Admission.Proofs.Http.Precedence
import Admission.Proofs.Http.Veiled
import Admission.Proofs.Queue.Agreement
import Admission.Proofs.Queue.Commuting
import Admission.Proofs.Queue.Lifecycle
import Admission.Proofs.Registry.Accounting
import Admission.Proofs.Registry.Enumeration
import Admission.Proofs.Run.Addressing
import Admission.Proofs.Run.Clock
import Admission.Proofs.Run.Contents
import Admission.Proofs.Run.Independence
import Admission.Proofs.Run.Secrecy
import Admission.Proofs.Run.Sweeping

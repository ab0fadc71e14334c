import FundsTransfer.Json.Printer
import FundsTransfer.Options
import FundsTransfer.Proofs.Precedence
import FundsTransfer.Proofs.Wording
import FundsTransfer.Service
import FundsTransfer.Session
import FundsTransfer.Proofs.Calendar
import FundsTransfer.Proofs.Findings
import FundsTransfer.Proofs.Text
import FundsTransfer.Proofs.Verdict
import FundsTransfer.Proofs.Movement
import FundsTransfer.Proofs.Session
import FundsTransfer.Proofs.Settlement
import FundsTransfer.Proofs.Diagnosis
import FundsTransfer.Proofs.Acceptance
import FundsTransfer.Proofs.Views
import FundsTransfer.Proofs.Deferral
import FundsTransfer.Proofs.Locality
import FundsTransfer.Proofs.Faults
import FundsTransfer.Proofs.Forms
import FundsTransfer.Proofs.Repetition
import FundsTransfer.Proofs.Uppercase
import FundsTransfer.Proofs.Clock
import FundsTransfer.Proofs.Echo
import FundsTransfer.Proofs.Disclosure
import FundsTransfer.Proofs.Log
import FundsTransfer.Proofs.Amount
import FundsTransfer.Proofs.Portions
import FundsTransfer.Proofs.Canonical
import FundsTransfer.Proofs.Submission
import FundsTransfer.Proofs.LetterCase
import FundsTransfer.Proofs.Continuation
import FundsTransfer.Proofs.Rollover
import FundsTransfer.Proofs.Spacing
import FundsTransfer.Proofs.Rules
import FundsTransfer.Proofs.Selection
import FundsTransfer.Proofs.Advance

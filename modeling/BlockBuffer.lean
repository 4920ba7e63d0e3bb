import BlockBuffer.Buffer.Command
import BlockBuffer.Bulk
import BlockBuffer.ByteBuffer.Command
import BlockBuffer.Proofs.Agreement
import BlockBuffer.Proofs.BackOff
import BlockBuffer.Proofs.Buffer.Cleanup
import BlockBuffer.Proofs.Buffer.Custody
import BlockBuffer.Proofs.ByteBuffer.Cleanup
import BlockBuffer.Proofs.ByteBuffer.Iteration
import BlockBuffer.Proofs.ByteBuffer.Verdicts
import BlockBuffer.Proofs.Ceiling
import BlockBuffer.Proofs.Estimate
import BlockBuffer.Proofs.Exhaustion
import BlockBuffer.Proofs.Faults
import BlockBuffer.Proofs.Headers
import BlockBuffer.Proofs.Ledger
import BlockBuffer.Proofs.Obliviousness
import BlockBuffer.Proofs.Policies
import BlockBuffer.Proofs.Promise
import BlockBuffer.Proofs.Refusals
import BlockBuffer.Proofs.Removals
import BlockBuffer.Proofs.Waste
import BlockBuffer.Proofs.Reservation.Trials
import BlockBuffer.Proofs.Rounding
import BlockBuffer.Proofs.Trials
import BlockBuffer.Proofs.Bytes.Inverse
import BlockBuffer.Proofs.Bulk
import BlockBuffer.Proofs.Codes

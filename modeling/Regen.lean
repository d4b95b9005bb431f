import Regen.Header.Printer
import Regen.Main
import Regen.Node.Printer
import Regen.Proofs.Lines
import Regen.Proofs.Places
import Regen.Proofs.Runs
import Regen.Proofs.Documents
import Regen.Proofs.Locality
import Regen.Proofs.Definitions
import Regen.Proofs.Forms
import Regen.Proofs.Placeless
import Regen.Proofs.Refilling
import Regen.Proofs.Rescan
import Regen.Proofs.StaleOutput
import Regen.Proofs.Widening
import Regen.Proofs.Idempotence
import Regen.Proofs.Settling
import Regen.Proofs.Failures
import Regen.Proofs.FailureModes
import Regen.Proofs.Adequacy
import Regen.Proofs.Routes
import Regen.Proofs.Isolation
import Regen.Proofs.Encoding
import Regen.Proofs.Parts
import Regen.Proofs.Provenance
import Regen.Proofs.Rewriting
import Regen.Proofs.DryRun
import Regen.Proofs.Spelling
import Regen.Proofs.LineNumbers
import Regen.Proofs.Culprits
import Regen.Proofs.Locations
import Regen.Proofs.Independence
import Regen.Proofs.Reordering
import Regen.Proofs.Pairing
import Regen.Proofs.LineEnds
import Regen.Proofs.Soundness
import Regen.Proofs.Lexing
import Regen.Proofs.Printing
import Regen.Proofs.RoundTrip
import Regen.Proofs.Concatenation
import Regen.Proofs.Tiling
import Regen.Proofs.Replacing
import Regen.Proofs.Consecutive
import Regen.Proofs.Partners
import Regen.Proofs.Closers
import Regen.Proofs.Commenting
import Regen.Proofs.Headers
import Regen.Proofs.Rows
import Regen.Proofs.Formatting
import Regen.Proofs.Diagnostics
import Regen.Proofs.Findings
import Regen.Proofs.Validation

import Reattempt.Consistency.Reading
import Reattempt.Session.Step
import Reattempt.Proofs.Runs
import Reattempt.Proofs.History
import Reattempt.Proofs.Succession
import Reattempt.Proofs.Ending
import Reattempt.Proofs.Gates
import Reattempt.Proofs.Replay
import Reattempt.Proofs.Bound
import Reattempt.Proofs.Layers
import Reattempt.Proofs.Limit
import Reattempt.Proofs.Concatenation
import Reattempt.Proofs.Inheritance
import Reattempt.Proofs.Abreast
import Reattempt.Proofs.Writes
import Reattempt.Proofs.Precedence
import Reattempt.Proofs.Snapshot
import Reattempt.Proofs.Fallback
import Reattempt.Proofs.Sparing
import Reattempt.Proofs.Restraint
import Reattempt.Proofs.Lowering
import Reattempt.Proofs.Serial
import Reattempt.Proofs.Transparency
import Reattempt.Proofs.Sharing
import Reattempt.Proofs.Reach
import Reattempt.Proofs.Classification
import Reattempt.Proofs.Chronicle
import Reattempt.Proofs.Dispute
import Reattempt.Proofs.Spelling

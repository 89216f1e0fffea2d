import SerialCheck.Exchange.Bench
import SerialCheck.Exchange.Call
import SerialCheck.Main
import SerialCheck.Proofs.Benign
import SerialCheck.Proofs.Candidates
import SerialCheck.Proofs.Connection
import SerialCheck.Proofs.FirstOffence
import SerialCheck.Proofs.Generated.WellFormed
import SerialCheck.Proofs.InSequence
import SerialCheck.Proofs.Isolation
import SerialCheck.Proofs.LeftOpen
import SerialCheck.Proofs.LockConflicts
import SerialCheck.Proofs.Mismatches
import SerialCheck.Proofs.NamedKinds
import SerialCheck.Proofs.NestedRows
import SerialCheck.Proofs.Populated
import SerialCheck.Proofs.Ranges
import SerialCheck.Proofs.Reproduced
import SerialCheck.Proofs.RunFaults
import SerialCheck.Proofs.Sent
import SerialCheck.Proofs.Serial.Records
import SerialCheck.Proofs.Sessions
import SerialCheck.Proofs.Sessions.Notices
import SerialCheck.Proofs.Snapshots
import SerialCheck.Proofs.Stuck
import SerialCheck.Proofs.Suspicions
import SerialCheck.Proofs.Synthesis.Brackets
import SerialCheck.Proofs.Trials

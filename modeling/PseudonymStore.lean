import PseudonymStore.Disk
import PseudonymStore.Log.Subscriber
import PseudonymStore.Operation.Run
import PseudonymStore.Proofs.EventId
import PseudonymStore.Proofs.Json.Reading
import PseudonymStore.Proofs.RowKey
import PseudonymStore.Proofs.KeyRange
import PseudonymStore.Settings
import PseudonymStore.Proofs.Row
import PseudonymStore.Proofs.Instant
import PseudonymStore.Proofs.Ledger
import PseudonymStore.Proofs.Session
import PseudonymStore.Proofs.Operation.Associate
import PseudonymStore.Proofs.Operation.Insert
import PseudonymStore.Proofs.Recall
import PseudonymStore.Proofs.Operation.Lookup
import PseudonymStore.Proofs.Operation.Provision
import PseudonymStore.Proofs.Operation.Purge
import PseudonymStore.Proofs.Operation.Run
import PseudonymStore.Proofs.Consistency
import PseudonymStore.Proofs.History
import PseudonymStore.Proofs.Mirror
import PseudonymStore.Proofs.Tenure
import PseudonymStore.Proofs.Evolution
import PseudonymStore.Proofs.Rollback
import PseudonymStore.Proofs.Life
import PseudonymStore.Proofs.Restart
import PseudonymStore.Proofs.Simulation
import PseudonymStore.Proofs.Veil
import PseudonymStore.Proofs.Secrecy
import PseudonymStore.Proofs.Format.Base64
import PseudonymStore.Proofs.Format.Pem
import PseudonymStore.Proofs.Format.Der
import PseudonymStore.Proofs.Key.Form
import PseudonymStore.Proofs.Key.File
import PseudonymStore.Proofs.Key.Either
import PseudonymStore.Proofs.Custody
import PseudonymStore.Proofs.Deletion
import PseudonymStore.Proofs.Rotation
import PseudonymStore.Proofs.Legible
import PseudonymStore.Proofs.Query
import PseudonymStore.Proofs.Correspondence
import PseudonymStore.Proofs.Agreement
import PseudonymStore.Proofs.Opacity
import PseudonymStore.Proofs.Generator
import PseudonymStore.Proofs.Relocation
import PseudonymStore.Proofs.Exhaustion
import PseudonymStore.Proofs.Purging
import PseudonymStore.Proofs.Fault
import PseudonymStore.Proofs.Attribution
import PseudonymStore.Proofs.Key.Pair
import PseudonymStore.Proofs.Bits
import PseudonymStore.Proofs.Token
import PseudonymStore.Proofs.Owned
import PseudonymStore.Proofs.Account
import PseudonymStore.Proofs.View

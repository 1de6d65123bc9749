import Teller.Gateway.Service
import Teller.Main
import Teller.Proofs.Table
import Teller.Proofs.Timed.Follows
import Teller.Proofs.Timed.Only
import Teller.Proofs.Store.Sound
import Teller.Proofs.Store.Move
import Teller.Proofs.Store.Gone
import Teller.Proofs.Store.Later
import Teller.Proofs.Store.Lock
import Teller.Proofs.Bank.Alone
import Teller.Proofs.Bank.Stage
import Teller.Proofs.Bank.Orderly
import Teller.Proofs.Bank.History
import Teller.Proofs.Bank.Unit
import Teller.Proofs.Bank.Pool
import Teller.Proofs.Bank.Announce
import Teller.Proofs.Bank.Change
import Teller.Proofs.Bank.Due
import Teller.Proofs.Bank.Mute
import Teller.Proofs.Bank.Primitive
import Teller.Proofs.Bank.Floor
import Teller.Proofs.Bank.Climb
import Teller.Proofs.Bank.Asking
import Teller.Proofs.Work.Execute
import Teller.Proofs.Transfer.Settle
import Teller.Proofs.Transfer.Work
import Teller.Proofs.Transfer.Execute
import Teller.Proofs.Transfer.Alike
import Teller.Proofs.Transfer.Alone
import Teller.Proofs.Transfer.Retry
import Teller.Proofs.Transfer.Objection
import Teller.Proofs.Transfer.Decision
import Teller.Proofs.Transfer.Deadline
import Teller.Proofs.Transfer.Serial
import Teller.Proofs.Transfer.Unhindered
import Teller.Proofs.Ledger.Call
import Teller.Proofs.Ledger.Dealing
import Teller.Proofs.Ledger.Balanced
import Teller.Proofs.Ledger.Conservation
import Teller.Proofs.Ledger.Atomic
import Teller.Proofs.Ledger.Removal
import Teller.Proofs.Ledger.Deadlock
import Teller.Proofs.Ledger.Statement
import Teller.Proofs.Ledger.Tally
import Teller.Proofs.Ledger.Dangling
import Teller.Proofs.Ledger.Guarded
import Teller.Proofs.Ledger.Overdraft
import Teller.Proofs.Ledger.Unique
import Teller.Proofs.Ledger.Permanent
import Teller.Proofs.Ledger.Reading
import Teller.Proofs.Ledger.Publication
import Teller.Proofs.Ledger.Hall
import Teller.Proofs.Ledger.Held
import Teller.Proofs.Ledger.Referring
import Teller.Proofs.Gateway.Body
import Teller.Proofs.Gateway.Serve
import Teller.Proofs.Gateway.Status
import Teller.Proofs.Gateway.Ownership
import Teller.Proofs.Gateway.Confidential
import Teller.Proofs.Gateway.Disclosure
import Teller.Proofs.Bank.Thread
import Teller.Proofs.Bank.Opening
import Teller.Proofs.Holder.Opening
import Teller.Proofs.Holder.Use
import Teller.Proofs.Ledger.Replay
import Teller.Proofs.Gateway.Audit
import Teller.Proofs.Gateway.Details
import Teller.Proofs.Gateway.Enveloped
import Teller.Proofs.Bank.Inside
import Teller.Proofs.Timed.Walk
import Teller.Proofs.Transfer.Feasible
import Teller.Proofs.Work.Written
import Teller.Proofs.Work.Contract
import Teller.Proofs.Work.Steps
import Teller.Proofs.Transfer.Retryable
import Teller.Proofs.Ledger.Paging
import Teller.Proofs.Ledger.Absence
import Teller.Proofs.Except
import Teller.Proofs.Numeral
import Teller.Proofs.Schema
import Teller.Proofs.Time.Rfc3339
import Teller.Proofs.Json.Text
import Teller.Proofs.Json.Number
import Teller.Proofs.Json.Tree
import Teller.Proofs.Json.Decode
import Teller.Proofs.Form
import Teller.Proofs.Transfer.Cause
import Teller.Proofs.Page

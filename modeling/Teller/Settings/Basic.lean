import Teller.Transfer.Execution

/-!
# Settings

What the operator of the bank decides: where it listens, which database it uses, what it writes to
its journal, and the terms on which orders are carried out.
-/

namespace Teller

/-- Where the bank listens for requests. -/
structure GatewaySettings where
  host : String
  port : Nat
deriving Repr, DecidableEq, Inhabited

/-- How orders are carried out. -/
structure LedgerSettings where
  /-- The deadline for the work on one order in milliseconds; zero stands for none. -/
  timeoutMs : Nat
  allowOverdraft : Bool
  maxConnections : Nat
deriving Repr, DecidableEq, Inhabited

structure Settings where
  logLevel : String
  logDirectory : String
  logFile : String
  useJson : Bool
  rotation : String
  gateway : GatewaySettings
  postgresUrl : Option String
  ledger : LedgerSettings
deriving Repr, DecidableEq, Inhabited

namespace LedgerSettings

/-- The settings that hold unless the operator decides otherwise. -/
def standard : LedgerSettings := ⟨5000, false, 10⟩

def deadline? (s : LedgerSettings) : Option Time.Span :=
  if 0 < s.timeoutMs then some (.millis s.timeoutMs) else none

def terms (s : LedgerSettings) : Terms :=
  ⟨s.allowOverdraft, s.deadline?⟩

end LedgerSettings

/-- The address of the database, if one is set that is not empty. -/
def Settings.databaseUrl? (s : Settings) : Option String :=
  s.postgresUrl.filter fun url => decide (url ≠ "")

end Teller

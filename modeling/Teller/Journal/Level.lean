/-!
# Levels

How weighty an event is. Levels are ordered from the gravest to the finest.
-/

namespace Teller.Journal

inductive Level where
  | error
  | warn
  | info
  | debug
  | trace
deriving Repr, DecidableEq, Inhabited

namespace Level

def name : Level → String
  | .error => "ERROR"
  | .warn => "WARN"
  | .info => "INFO"
  | .debug => "DEBUG"
  | .trace => "TRACE"

/-- Graver levels come first. -/
def rank : Level → Nat
  | .error => 1
  | .warn => 2
  | .info => 3
  | .debug => 4
  | .trace => 5

/-- Every level, gravest first. -/
def all : List Level :=
  [.error, .warn, .info, .debug, .trace]

end Level

end Teller.Journal

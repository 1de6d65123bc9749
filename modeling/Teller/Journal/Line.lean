import Teller.Journal.Event
import Teller.Json.Write

/-!
# Lines of the journal

How events stand in the journal: as text for people, or as JSON for programs.
-/

namespace Teller

namespace Event

def source : String := "bank_ledger"

def Field.datum : Field → Datum
  | .int n => .int n
  | .bool b => .bool b
  | .text s => .text s

def Field.words : Field → String
  | .int n => toString n
  | .bool b => if b then "true" else "false"
  | .text s => s

/-- The event in words: level, message and fields. -/
def words (e : Event) : String :=
  " ".intercalate (e.level.name :: e.message :: e.fields.map fun (name, v) => name ++ "=" ++ v.words)

/-- The event in words after the time of its note. Levels are as wide as the widest of them. -/
def line (time : String) (e : Event) : String :=
  time ++ " " ++ (if e.level.name.length < 5 then " " else "") ++ e.words

/-- The event as data, without the time of its note. -/
def parts (e : Event) : List (String × Datum) :=
  [("level", .text e.level.name),
    ("fields", .record (("message", .text e.message) :: e.fields.map fun (name, v) => (name, v.datum))),
    ("target", .text source)]

def datum (e : Event) : Datum :=
  .record e.parts

/-- The event as JSON after the time of its note. -/
def jsonLine (time : String) (e : Event) : String :=
  Json.render (.record (("timestamp", .text time) :: e.parts))

end Event

end Teller

import Teller.Time.Instant

/-!
# Data

Values without a type of their own, as they are exchanged with the outside: what is read is such a
value of the right shape, and what is written is made of such values.
-/

namespace Teller

/-- A value. The fields of a record have an order, and different names. -/
inductive Datum where
  /-- Nothing, where a value may be left out. -/
  | absent
  | bool (b : Bool)
  | int (n : Int)
  | text (s : String)
  | time (t : Time.Instant)
  | list (items : List Datum)
  | record (fields : List (String × Datum))
deriving Inhabited

namespace Datum

def field? (name : String) : Datum → Option Datum
  | .record fields => fields.lookup name
  | _ => none

def int? : Datum → Option Int
  | .int n => some n
  | _ => none

/-- The number, counted from zero. -/
def nat? : Datum → Option Nat
  | .int n => some n.toNat
  | _ => none

def bool? : Datum → Option Bool
  | .bool b => some b
  | _ => none

def text? : Datum → Option String
  | .text s => some s
  | _ => none

def time? : Datum → Option Time.Instant
  | .time t => some t
  | _ => none

/-- The text, or that there is none. -/
def textOrAbsent? : Datum → Option (Option String)
  | .text s => some (some s)
  | .absent => some none
  | _ => none

end Datum

end Teller

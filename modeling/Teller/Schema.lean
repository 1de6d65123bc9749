import Teller.Datum
import Teller.Text.Quoted

/-!
# Schemas

The shapes of data. A schema says what is expected, in words that every format uses alike; how a
shape looks in a format, and what is said about a text that lacks it, is up to that format.
-/

namespace Teller

/-- A range of whole numbers with a name. -/
structure IntRange where
  name : String
  least : Int
  greatest : Int
deriving Repr, DecidableEq, Inhabited

namespace IntRange

def i64 : IntRange := ⟨"i64", -9223372036854775808, 9223372036854775807⟩

def i32 : IntRange := ⟨"i32", -2147483648, 2147483647⟩

def u64 : IntRange := ⟨"u64", 0, 18446744073709551615⟩

def u32 : IntRange := ⟨"u32", 0, 4294967295⟩

def u16 : IntRange := ⟨"u16", 0, 65535⟩

def Holds (r : IntRange) (n : Int) : Prop :=
  r.least ≤ n ∧ n ≤ r.greatest

instance (r : IntRange) (n : Int) : Decidable (r.Holds n) :=
  inferInstanceAs (Decidable (r.least ≤ n ∧ n ≤ r.greatest))

end IntRange

/-- How a record deals with one of its fields. -/
structure FieldRule where
  name : String
  /-- The value of the field when a record with named fields lacks it. -/
  ifMissing : Option Datum
  /-- The value of the field when a record without names ends before it. -/
  ifShort : Option Datum
  /-- A field without a value is left out. -/
  dropsAbsent : Bool

namespace FieldRule

/-- The field must be there. -/
def required (name : String) : FieldRule :=
  ⟨name, none, none, false⟩

/-- The field may be missing, and then has this value. -/
def withDefault (name : String) (d : Datum) : FieldRule :=
  ⟨name, some d, some d, false⟩

/-- The field may be without a value, and is then left out. -/
def omittable (name : String) : FieldRule :=
  ⟨name, some .absent, none, true⟩

end FieldRule

/-- A shape of data. -/
inductive Schema where
  | bool
  | int (range : IntRange)
  | text
  | time
  | choice (words : List String)
  | optional (inner : Schema)
  /-- A record with a name. -/
  | record (name : String) (fields : List (FieldRule × Schema))

namespace Schema

def inner : Schema → Schema
  | .optional s => s
  | s => s

def expected : Schema → String
  | .bool => "a boolean"
  | .int range => range.name
  | .text => "a string"
  | .time => "an RFC 3339 formatted date and time string"
  | .choice _ => "variant identifier"
  | .optional s => s.expected
  | .record name _ => "struct " ++ name

def field? (name : String) (fields : List (FieldRule × Schema)) : Option (FieldRule × Schema) :=
  fields.find? fun f => decide (f.1.name = name)

/-- The values of the fields in their order, from those that were found. The first one that must be
there and is not found is the failure. -/
def assemble (found : List (String × Datum)) :
    List (FieldRule × Schema) → Except String (List (String × Datum))
  | [] => .ok []
  | (rule, _) :: rest => do
    let d ← match (found.lookup rule.name).or rule.ifMissing with
      | some d => pure d
      | none => .error rule.name
    let ds ← assemble found rest
    match d with
    | .absent => if rule.dropsAbsent then return ds else return (rule.name, d) :: ds
    | _ => return (rule.name, d) :: ds

end Schema

/-! ### What was found, in words -/

namespace Found

def bool (b : Bool) : String :=
  "boolean `" ++ (if b then "true" else "false") ++ "`"

def int (n : Int) : String :=
  "integer `" ++ toString n ++ "`"

/-- A floating-point number, as it is written. -/
def float (digits : String) : String :=
  "floating point `" ++ digits ++ "`"

def text (s : String) : String :=
  "string " ++ Text.quoted s

end Found

/-! ### What is said about data of the wrong shape -/

def invalidType (found expected : String) : String :=
  "invalid type: " ++ found ++ ", expected " ++ expected

def invalidValue (found expected : String) : String :=
  "invalid value: " ++ found ++ ", expected " ++ expected

def missingField (name : String) : String :=
  "missing field `" ++ name ++ "`"

def duplicateField (name : String) : String :=
  "duplicate field `" ++ name ++ "`"

def unknownVariant (found : String) (words : List String) : String :=
  "unknown variant `" ++ found ++ "`, expected " ++
    match words with
    | [] => "nothing"
    | [a] => "`" ++ a ++ "`"
    | [a, b] => "`" ++ a ++ "` or `" ++ b ++ "`"
    | _ => "one of " ++ ", ".intercalate (words.map fun w => "`" ++ w ++ "`")

/-- The number, if it lies in the range. -/
def IntRange.accept (range : IntRange) (n : Int) : Except String Datum :=
  if range.Holds n then .ok (.int n) else .error (invalidValue (Found.int n) range.name)

def Schema.oneOf (words : List String) (s : String) : Except String Datum :=
  if s ∈ words then .ok (.text s) else .error (unknownVariant s words)

/-- A record without names ends too soon. -/
def invalidLength (length : Nat) (name : String) (fields : Nat) : String :=
  "invalid length " ++ toString length ++ ", expected struct " ++ name ++ " with " ++
    toString fields ++ (if fields = 1 then " element" else " elements")

end Teller

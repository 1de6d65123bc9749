import Teller.Decimal.Shortest
import Teller.Json.Tree
import Teller.Schema
import Teller.Time.Rfc3339

/-!
# Reading JSON

Data of a schema from JSON. A record is an object with its fields by name, or an array with its
fields in order; unknown fields are passed over. Of several faults the first one in the text counts,
and a text that breaks off is at fault only where it does.
-/

namespace Teller.Json

/-- A step on the way from a value to a part of it. -/
inductive Step where
  | field (name : String)
  | item (index : Nat)
deriving Repr, DecidableEq, Inhabited

def Step.text : Step → String
  | .field name => name
  | .item index => "[" ++ toString index ++ "]"

/-- Why a text gives no data of a schema. -/
inductive Fault where
  | malformed
  /-- A value does not fit; the path leads to it. -/
  | mismatch (path : List Step) (message : String)
deriving Repr, DecidableEq, Inhabited

/-- The fault, seen from one step further out. -/
def Fault.under (step : Step) : Fault → Fault
  | .malformed => .malformed
  | .mismatch path message => .mismatch (step :: path) message

/-- What is found, in words. Numbers have a point and no exponent between 10⁻⁴ and 10¹⁶. -/
def floatLayout : Decimal.Layout := ⟨-4, 15⟩

/-- What the tree is, in words, unless it is at fault itself. -/
def Tree.found? : Tree → Option String
  | .null => some "null"
  | .bool b => some (Found.bool b)
  | .number (some (.int n)) => some (Found.int n)
  | .number (some (.float x)) => some (Found.float (floatLayout.write x))
  | .number none => none
  | .text (some s) => some (Found.text s)
  | .text none => none
  | .array _ => some "sequence"
  | .object _ => some "map"
  | .broken => none

def Tree.unexpected (t : Tree) (expected : String) : Fault :=
  match t.found? with
  | some found => .mismatch [] (invalidType found expected)
  | none => .malformed

def oneOf (words : List String) (s : String) : Except Fault Datum :=
  (Schema.oneOf words s).mapError (.mismatch [])

def instant (s : String) : Except Fault Datum :=
  match Time.Rfc3339.read s.toList with
  | .ok t => .ok (.time t)
  | .error e => .error (.mismatch [] e.message)

/-- A choice as an object: the word is the only key and has no value. -/
def choiceOf (words : List String) : Members → Except Fault Datum
  | .odd key => .error (key.unexpected "variant identifier")
  | .stray (some word) => do
    let _ ← oneOf words word
    .error .malformed
  | .cons (some word) value rest => do
    let d ← oneOf words word
    match value, rest with
    | .null, .close => .ok d
    | .null, _ => .error .malformed
    | value, _ => .error (value.unexpected "unit")
  | _ => .error .malformed

/-- The value of a schema that stands where a value is, not a container. -/
def scalar (t : Tree) : Schema → Except Fault Datum
  | .optional s =>
    match t with
    | .null => .ok .absent
    | t => scalar t s
  | .bool =>
    match t with
    | .bool b => .ok (.bool b)
    | t => .error (t.unexpected Schema.bool.expected)
  | .int range =>
    match t with
    | .number (some (.int n)) => (range.accept n).mapError (.mismatch [])
    | t => .error (t.unexpected range.name)
  | .text =>
    match t with
    | .text (some s) => .ok (.text s)
    | t => .error (t.unexpected Schema.text.expected)
  | .time =>
    match t with
    | .text (some s) => instant s
    | t => .error (t.unexpected Schema.time.expected)
  | .choice words =>
    match t with
    | .text (some s) => oneOf words s
    | .object members => choiceOf words members
    | _ => .error .malformed
  | .record name fields => .error (t.unexpected (Schema.record name fields).expected)

/-- The fields of a record that ends before them. -/
def closeWith (name : String) (count : Nat) :
    Nat → List (FieldRule × Schema) → Except Fault (List (String × Datum))
  | _, [] => .ok []
  | index, (rule, _) :: rest =>
    match rule.ifShort with
    | some d => do return (rule.name, d) :: (← closeWith name count (index + 1) rest)
    | none => .error (.mismatch [] (invalidLength index name count))

mutual

def Tree.decode (schema : Schema) : Tree → Except Fault Datum
  | .array items =>
    match schema.inner with
    | .record name fields => do return .record (← items.decode name fields.length 0 fields)
    | _ => scalar (.array items) schema
  | .object members =>
    match schema.inner with
    | .record _ fields => do
      let found ← members.decode fields []
      match Schema.assemble found fields with
      | .ok ds => return .record ds
      | .error missing => .error (.mismatch [] (missingField missing))
    | _ => scalar (.object members) schema
  | t => scalar t schema

/-- The fields of a record in order; `index` of them, of `count`, were read before. -/
def Items.decode (name : String) (count index : Nat) (fields : List (FieldRule × Schema)) :
    Items → Except Fault (List (String × Datum))
  | .cut => .error .malformed
  | .close => closeWith name count index fields
  | .cons item items =>
    match fields with
    | [] => .error .malformed
    | (rule, s) :: rest => do
      let d ← (item.decode s).mapError (·.under (.item index))
      let ds ← items.decode name count (index + 1) rest
      match d with
      | .absent => if rule.dropsAbsent then return ds else return (rule.name, d) :: ds
      | _ => return (rule.name, d) :: ds

/-- The fields of a record by name, after those that were found before. -/
def Members.decode (fields : List (FieldRule × Schema)) (found : List (String × Datum)) :
    Members → Except Fault (List (String × Datum))
  | .close => .ok found
  | .cut => .error .malformed
  | .odd _ => .error .malformed
  | .stray none => .error .malformed
  | .stray (some key) =>
    if (Schema.field? key fields).isSome ∧ (found.lookup key).isSome then
      .error (.mismatch [] (duplicateField key))
    else .error .malformed
  | .cons none _ _ => .error .malformed
  | .cons (some key) value rest =>
    match Schema.field? key fields with
    | none => rest.decode fields found
    | some (_, s) =>
      if (found.lookup key).isSome then .error (.mismatch [] (duplicateField key))
      else do
        let d ← (value.decode s).mapError (·.under (.field key))
        rest.decode fields ((key, d) :: found)

end

def read (schema : Schema) (text : String) : Except Fault Datum := do
  let (t, ends) := Tree.ofText text
  let d ← t.decode schema
  if ends then return d else .error .malformed

end Teller.Json

import Teller.Time.Rfc3339
import Teller.Yaml.Document
import Teller.Yaml.Scalar.Meaning

/-!
# Reading YAML

Data of a schema from a document. A record is a mapping with its fields by name; unknown fields are
passed over, and where nothing is written stands a record without fields. Of several faults the
first one in the text counts.
-/

namespace Teller.Yaml

/-- Why a text gives no data of a schema. -/
inductive Refusal where
  /-- The text is no document. -/
  | malformed (f : Fault)
  /-- A value does not fit; the path leads to it. -/
  | mismatch (path : List String) (message : String)
deriving Repr, DecidableEq, Inhabited

namespace Refusal

/-- The refusal, seen from one step further out. -/
def under (step : String) : Refusal → Refusal
  | .malformed f => .malformed f
  | .mismatch path message => .mismatch (step :: path) message

def message : Refusal → String
  | .malformed f => f.message
  | .mismatch [] message => message
  | .mismatch path message => ".".intercalate path ++ ": " ++ message

end Refusal

/-! ### Scalars -/

/-- What a plain scalar is, in words. -/
def Meaning.found (s : String) : Meaning → String
  | .null => "unit value"
  | .bool b => Found.bool b
  | .whole w => w.found
  | .real x => x.found
  | .text => Found.text s

namespace Scalar

/-- The scalar may stand where a value of the tag belongs. -/
def admits (tag : String) (s : Scalar) : Bool :=
  s.style = .plain || (s.style = .literal && s.tag = some tag)

/-- What is said of a scalar that its tag calls something that it is not. -/
def belies (kind : String) (s : Scalar) : String :=
  invalidValue (Found.text s.text) kind

/-- What is said of a scalar where something else is expected. -/
def unexpected (s : Scalar) (expected : String) : String :=
  let type (found : Option String) (kind : String) : String :=
    match found with
    | some found => invalidType found expected
    | none => s.belies kind
  let plain := s.style = .plain && s.tag.all (·.startsWith "!")
  if s.tag = some Tag.bool then type ((bool? s.text).map Found.bool) "a boolean"
  else if s.tag = some Tag.int then type ((Whole.read? s.text.toList).map Whole.found) "an integer"
  else if s.tag = some Tag.float then type ((Real.read? s.text).map Real.found) "a float"
  else if s.tag = some Tag.null then type (if isNull s.text then some "unit value" else none) "null"
  else if plain then invalidType ((Meaning.ofPlain s.text).found s.text) expected
  else invalidType (Found.text s.text) expected

/-- Nothing is written here. -/
def isEmpty (s : Scalar) : Bool :=
  s.style = .plain && s.text = ""

/-- The scalar stands for nothing, where a value may be left out; or what is wrong with it. -/
def isAbsent (s : Scalar) : Except String Bool :=
  if s.style ≠ .plain then .ok false
  else
    match s.tag with
    | none => .ok (s.text = "" || isNull s.text)
    | some tag =>
      if tag = Tag.null then if isNull s.text then .ok true else .error (s.belies "null")
      else .ok false

/-- The value of a schema that is no record. -/
def decode (s : Scalar) : Schema → Except String Datum
  | .optional schema => decode s schema
  | .bool =>
    match bool? s.text with
    | some b => if s.admits Tag.bool then .ok (.bool b) else .error (s.unexpected Schema.bool.expected)
    | none => .error (s.unexpected Schema.bool.expected)
  | .int range =>
    match Whole.read? s.text.toList with
    | some w =>
      if s.admits Tag.int ∧ w.Fits 64 ∧ (w.negative → range.least < 0) then range.accept w.value
      else .error (s.unexpected range.name)
    | none => .error (s.unexpected range.name)
  | .text => .ok (.text s.text)
  | .time =>
    match Time.Rfc3339.read s.text.toList with
    | .ok t => .ok (.time t)
    | .error e => .error e.message
  | .choice words => Schema.oneOf words s.text
  | .record name fields => .error (s.unexpected (Schema.record name fields).expected)

end Scalar

/-! ### Nodes -/

/-- The fault of a text that ends where a value belongs. -/
def noValue : Fault := ⟨"EOF while parsing a value", none⟩

/-- The fault of an alias without a node. -/
def noAnchor : Fault := ⟨"unknown anchor", none⟩

/-- The name that a key gives, and the step to its value. -/
def keyName (root key : Node) : Except Refusal (String × String) :=
  match root.resolve key with
  | .scalar s =>
    match key with
    | .alias _ => .ok (s.text, "?")
    | _ => .ok (s.text, s.text)
  | .sequence _ => .error (.mismatch [] (invalidType "sequence" "field identifier"))
  | .mapping _ => .error (.mismatch [] (invalidType "map" "field identifier"))
  | .cut f => .error (.malformed f)
  | .alias _ => .error (.malformed noAnchor)
  | .anchored _ _ => .error (.malformed noAnchor)

/-- The node stands for nothing, where a value may be left out. -/
def isAbsent (root : Node) (schema : Schema) (node : Node) : Except Refusal Bool :=
  match schema, root.resolve node with
  | .optional _, .scalar s => s.isAbsent.mapError (.mismatch [])
  | _, _ => .ok false

/-- The record of the fields that were found. -/
def record (found : List (String × Datum)) (fields : List (FieldRule × Schema)) :
    Except Refusal Datum :=
  match Schema.assemble found fields with
  | .ok ds => .ok (.record ds)
  | .error missing => .error (.mismatch [] (missingField missing))

/-- The record of the members, after those fields that were found before. -/
def Members.decode (root : Node) (value : Schema → Node → Except Refusal Datum)
    (fields : List (FieldRule × Schema)) (found : List (String × Datum)) :
    Members → Except Refusal Datum
  | .close => record found fields
  | .cut f => .error (.malformed f)
  | .cons key node rest => do
    let (name, step) ← keyName root key
    match Schema.field? name fields with
    | none =>
      match node.fault? with
      | some f => .error (.malformed f)
      | none => rest.decode root value fields found
    | some (_, schema) =>
      if (found.lookup name).isSome then .error (.mismatch [] (duplicateField name))
      else if ← isAbsent root schema node then
        rest.decode root value fields ((name, .absent) :: found)
      else
        let d ← (value schema node).mapError (·.under step)
        rest.decode root value fields ((name, d) :: found)

/-- The value of a schema. Values may be nested only so deep. -/
def Node.decode (root : Node) : Nat → Schema → Node → Except Refusal Datum
  | 0, _, _ => .error (.mismatch [] "recursion limit exceeded")
  | depth + 1, schema, node =>
    match root.resolve node, schema.inner with
    | .scalar s, .record name fields =>
      if s.isEmpty then record [] fields
      else .error (.mismatch [] (s.unexpected (Schema.record name fields).expected))
    | .scalar s, schema => (s.decode schema).mapError (.mismatch [])
    | .mapping members, .record _ fields =>
      members.decode root (decode root depth) fields []
    | .mapping _, schema => .error (.mismatch [] (invalidType "map" schema.expected))
    | .sequence _, schema => .error (.mismatch [] (invalidType "sequence" schema.expected))
    | .cut f, _ => .error (.malformed f)
    | .alias _, _ => .error (.malformed noAnchor)
    | .anchored _ _, _ => .error (.malformed noAnchor)

/-- How deep values may be nested. -/
def deepest : Nat := 128

/-- The data of a schema that a document holds. -/
def Document.decode (schema : Schema) (doc : Document) : Except Refusal Datum :=
  match doc.root with
  | none =>
    match schema with
    | .record _ fields => record [] fields
    | .optional _ => .ok .absent
    | _ => .error (.malformed noValue)
  | some root => do
    let d ← root.decode deepest schema root
    match doc.fault with
    | some f => .error (.malformed f)
    | none => return d

/-- The data of a schema that a text shows. -/
def read (schema : Schema) (text : String) : Except Refusal Datum :=
  (Document.ofText text).decode schema

/-- The text is a document. -/
def isDocument (text : String) : Bool :=
  (Document.ofText text).fault.isNone

end Teller.Yaml

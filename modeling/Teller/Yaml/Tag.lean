import Teller.Numeral
import Teller.Text.Utf8
import Teller.Yaml.Cursor

/-!
# Tags

A tag is a handle and a suffix; a directive says what the handle stands for. Octets of a tag may be
written with a percent sign.
-/

namespace Teller.Yaml.Tag

/-- Where a tag is written. -/
inductive Place where
  | directive
  | node
deriving Repr, DecidableEq, Inhabited

def Place.handleContext : Place → String
  | .directive => "while scanning a directive"
  | .node => "while scanning a tag"

def Place.uriContext : Place → String
  | .directive => "while parsing a %TAG directive"
  | .node => "while parsing a tag"

/-- Reads a handle: an exclamation mark, and perhaps a word and another one. -/
def readHandle (place : Place) (cs : List Char) : Except Fault (List Char × List Char) :=
  match cs with
  | '!' :: rest =>
    let name := rest.takeWhile isWord
    match rest.dropWhile isWord with
    | '!' :: rest => .ok ('!' :: name ++ ['!'], rest)
    | rest =>
      if place = .directive ∧ name ≠ [] then
        .error ⟨"did not find expected '!'", some "while parsing a directive"⟩
      else .ok ('!' :: name, rest)
  | _ => .error ⟨"did not find expected '!'", some place.handleContext⟩

/-- The character may stand in a tag; commas and brackets may only in some places. -/
def isUri (brackets : Bool) (c : Char) : Bool :=
  isWord c || ";/?:@&=+$.!~*'()%".toList.contains c ||
    (brackets && (c = ',' || c = '[' || c = ']'))

/-- How many octets a character has that begins with this one. -/
def width (octet : Nat) : Nat :=
  if octet < 0x80 then 1
  else if octet / 0x20 = 6 then 2
  else if octet / 0x10 = 14 then 3
  else if octet / 0x08 = 30 then 4
  else 0

def octet? : List Char → Option (Nat × List Char)
  | '%' :: a :: b :: rest => (Numeral.ofDigits? 16 [a, b]).map fun n => (n, rest)
  | _ => none

/-- The `count` octets that go on with a character. -/
def tails (place : Place) : Nat → List Char → Except Fault (List Nat × List Char)
  | 0, cs => .ok ([], cs)
  | count + 1, cs =>
    match octet? cs with
    | none => .error ⟨"did not find URI escaped octet", some place.uriContext⟩
    | some (n, rest) =>
      if n / 0x40 ≠ 2 then
        .error ⟨"found an incorrect trailing UTF-8 octet", some place.uriContext⟩
      else do
        let (ns, rest) ← tails place count rest
        return (n :: ns, rest)

/-- The character of octets after percent signs. -/
def escape (place : Place) (cs : List Char) : Except Fault (List Char × List Char) :=
  match octet? cs with
  | none => .error ⟨"did not find URI escaped octet", some place.uriContext⟩
  | some (n, rest) =>
    if width n = 0 then
      .error ⟨"found an incorrect leading UTF-8 octet", some place.uriContext⟩
    else do
      let (ns, rest) ← tails place (width n - 1) rest
      return (Text.Utf8.decode (n :: ns), rest)

/-- The characters of a tag from here on. -/
def uriChars (place : Place) (brackets : Bool) :
    Nat → List Char → Except Fault (List Char × List Char)
  | 0, cs => .ok ([], cs)
  | _, [] => .ok ([], [])
  | fuel + 1, c :: rest =>
    if ¬ isUri brackets c then .ok ([], c :: rest)
    else if c = '%' then do
      let (ds, rest) ← escape place (c :: rest)
      let (cs, rest) ← uriChars place brackets fuel rest
      return (ds ++ cs, rest)
    else do
      let (cs, rest) ← uriChars place brackets fuel rest
      return (c :: cs, rest)

/-- Reads what follows a handle. What was taken for a handle and is none counts as read, without its
exclamation mark. -/
def readUri (place : Place) (brackets : Bool) (before cs : List Char) :
    Except Fault (List Char × List Char) := do
  let (read, rest) ← uriChars place brackets (cs.length + 1) cs
  if before = [] ∧ rest.length = cs.length then
    .error ⟨"did not find expected tag URI", some place.uriContext⟩
  else return (before.drop 1 ++ read, rest)

/-- Reads a tag of a node: handle and suffix. A verbatim tag has an empty handle, and so has the tag
that is an exclamation mark alone. -/
def read (flow : Bool) (cs : List Char) : Except Fault ((List Char × List Char) × List Char) := do
  let (tag, rest) ← match cs with
    | '!' :: '<' :: more => do
      let (suffix, rest) ← readUri .node true [] more
      match rest with
      | '>' :: rest => pure (([], suffix), rest)
      | _ => .error ⟨"did not find the expected '>'", some "while scanning a tag"⟩
    | cs => do
      let (handle, rest) ← readHandle .node cs
      if 1 < handle.length ∧ handle.getLast? = some '!' then
        let (suffix, rest) ← readUri .node false [] rest
        pure ((handle, suffix), rest)
      else
        let (suffix, rest) ← readUri .node false handle rest
        pure (if suffix = [] then ([], ['!']) else (['!'], suffix), rest)
  if atGap rest ∨ (flow ∧ rest.head? = some ',') then return (tag, rest)
  else .error ⟨"did not find expected whitespace or line break", some "while scanning a tag"⟩

/-! ### Tags of plain kinds -/

/-- What the handle of two exclamation marks stands for. -/
def standardLead : String := "tag:yaml.org,2002:"

def null : String := standardLead ++ "null"
def bool : String := standardLead ++ "bool"
def int : String := standardLead ++ "int"
def float : String := standardLead ++ "float"

end Teller.Yaml.Tag

import Teller.Gateway.Percent
import Teller.Gateway.Route
import Teller.Numeral.Signed
import Teller.Schema

/-!
# Queries

The page that a query asks for. A query is a form: fields between ampersands, each a name and a
value. Other fields are passed over. Of several faults the first one in the query counts, and fields
that are missing come last.
-/

namespace Teller.Gateway

structure PageQuery where
  number : Int
  size : Int
deriving Repr, DecidableEq, Inhabited

def formFields (query : List Char) : List (List Char × List Char) :=
  ((splitOn '&' query).filter (· ≠ [])).map fun part =>
    let (name, value) := cutAt '=' part
    (Percent.formText name, Percent.formText (value.getD []))

namespace PageQuery

def numberField : String := "page_id"

def sizeField : String := "page_size"

/-- A value of a field that has none so far. -/
def readField (name : String) (before : Option Int) (value : List Char) : Except String Int :=
  match before with
  | some _ => .error (duplicateField name)
  | none => (Numeral.readAmount value).mapError fun e => name ++ ": " ++ e.message

/-- The values of the two fields, after those that were found before. -/
def collect (number size : Option Int) :
    List (List Char × List Char) → Except String (Option Int × Option Int)
  | [] => .ok (number, size)
  | (name, value) :: rest =>
    if name = numberField.toList then do
      collect (some (← readField numberField number value)) size rest
    else if name = sizeField.toList then do
      collect number (some (← readField sizeField size value)) rest
    else collect number size rest

def read (query : List Char) : Except String PageQuery := do
  match ← collect none none (formFields query) with
  | (some number, some size) => return ⟨number, size⟩
  | (none, _) => .error (missingField numberField)
  | (some _, none) => .error (missingField sizeField)

end PageQuery

end Teller.Gateway

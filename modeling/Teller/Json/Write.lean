import Teller.Datum
import Teller.Json.Text
import Teller.Time.Rfc3339

/-!
# Writing JSON

Data as JSON without blanks; a time is a string.
-/

namespace Teller.Json

mutual

def write : Datum → List Char
  | .absent => ['n', 'u', 'l', 'l']
  | .bool b => if b then ['t', 'r', 'u', 'e'] else ['f', 'a', 'l', 's', 'e']
  | .int n => Teller.Numeral.decimal n
  | .text s => writeText s
  | .time t => '"' :: Time.Rfc3339.write t ++ ['"']
  | .list items => '[' :: writeItems items
  | .record fields => '\x7b' :: writeFields fields

/-- The items up to the closing bracket. -/
def writeItems : List Datum → List Char
  | [] => [']']
  | [d] => write d ++ [']']
  | d :: ds => write d ++ ',' :: writeItems ds

/-- The fields up to the closing brace. -/
def writeFields : List (String × Datum) → List Char
  | [] => ['\x7d']
  | [(name, d)] => writeText name ++ ':' :: write d ++ ['\x7d']
  | (name, d) :: rest => writeText name ++ ':' :: write d ++ ',' :: writeFields rest

end

def render (d : Datum) : String :=
  String.ofList (write d)

end Teller.Json

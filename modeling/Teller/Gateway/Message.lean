import Teller.Json.Write
import Teller.Text.Utf8

/-!
# Requests and answers

What is exchanged over HTTP, as far as the bank looks at it.
-/

namespace Teller.Gateway

/-- The octets of a body. -/
structure Body where
  octets : List UInt8
deriving Repr, DecidableEq, Inhabited

namespace Body

def ofText (s : String) : Body :=
  ⟨(Text.Utf8.encode s.toList).map UInt8.ofNat⟩

instance : Coe String Body := ⟨ofText⟩

/-- How many octets a body may have. -/
def limit : Nat := 2097152

def Fits (b : Body) : Prop :=
  b.octets.length ≤ limit

instance (b : Body) : Decidable b.Fits :=
  inferInstanceAs (Decidable (b.octets.length ≤ limit))

/-- What is read for octets that are no text: half a surrogate pair, as a string may hold it that nobody looks at. The
letters around it keep it from being part of a whole pair or of an escape. -/
def stray : List Char :=
  ['Z', '\\', 'u', 'd', '8', '0', '0', 'Z']

/-- The body as text of JSON. -/
def text (b : Body) : String :=
  String.ofList (Text.Utf8.decodeWith stray (b.octets.map UInt8.toNat))

end Body

structure Request where
  method : String
  /-- The target, with path and query. -/
  target : String
  /-- Names and values of the headers in their order; the case of a name does not matter. -/
  headers : List (String × String)
  body : Body
deriving Repr, DecidableEq, Inhabited

structure Answer where
  status : Nat
  /-- The methods that the target allows, in alphabetical order, if the answer names them. -/
  allow : Option (List String)
  body : String
deriving Repr, DecidableEq, Inhabited

namespace Request

/-- The value of the first header of a name in small letters. -/
def header? (r : Request) (name : String) : Option String :=
  (r.headers.find? fun h => decide (h.1.toLower = name)).map (·.2)

end Request

/-- The text holds nothing but printable ASCII characters and tabs. -/
def isPlain (s : String) : Bool :=
  s.toList.all fun c => c = '\t' || (0x20 ≤ c.toNat && c.toNat ≤ 0x7e)

namespace Answer

def plain (status : Nat) (body : String) : Answer :=
  ⟨status, none, body⟩

def json (status : Nat) (d : Datum) : Answer :=
  ⟨status, none, Json.render d⟩

end Answer

end Teller.Gateway

/-!
# Media types

Whether a media type is that of JSON: `application/json`, or an application format that is built on
JSON. The whole value must be well-formed, parameters included.
-/

namespace Teller.Gateway.MediaType

def isToken (c : Char) : Bool :=
  c.isAlphanum || "!#$%&'*+-.^_`|~".toList.contains c

def isQuotable (c : Char) : Bool :=
  0x20 ≤ c.toNat && c.toNat ≠ 0x7f

/-- What follows the closing quote of a value, which holds at least one character. -/
def afterQuoted : List Char → Option (List Char)
  | [] => none
  | c :: cs =>
    let rec close : List Char → Option (List Char)
      | [] => none
      | '"' :: rest => some rest
      | c :: rest => if isQuotable c then close rest else none
    if isQuotable c then close cs else none

/-- What follows the value of a parameter, from the next parameter on. -/
def afterValue (cs : List Char) : Option (List Char) :=
  match cs with
  | '"' :: quoted => do
    match (← afterQuoted quoted).dropWhile (· = ' ') with
    | [] => some []
    | ';' :: rest => some rest
    | _ => none
  | cs =>
    match cs.takeWhile isToken, cs.dropWhile isToken with
    | _, [] => some []
    | [], _ => none
    | _, ';' :: rest => some rest
    | _, _ => none

/-- What follows a parameter: a name, an equals sign and a value. -/
def afterParameter (cs : List Char) : Option (List Char) :=
  match cs.takeWhile isToken, cs.dropWhile isToken with
  | _ :: _, '=' :: value => afterValue value
  | _, _ => none

def areParameters : Nat → List Char → Bool
  | 0, _ => false
  | fuel + 1, cs =>
    match cs.dropWhile (· = ' ') with
    | [] => true
    | cs =>
      match afterParameter cs with
      | some rest => areParameters fuel rest
      | none => false

/-- The subtype without a suffix, and the suffix after the last plus. A plus in front is a character
of the subtype. -/
def suffix? (subtype : List Char) : List Char × Option (List Char) :=
  match subtype with
  | [] => ([], none)
  | first :: rest =>
    match rest.reverse.dropWhile (· ≠ '+') with
    | [] => (subtype, none)
    | _ :: before => (first :: before.reverse, some (rest.reverse.takeWhile (· ≠ '+')).reverse)

def isJson (value : String) : Bool :=
  let cs := value.toList.map Char.toLower
  let type := cs.takeWhile isToken
  match cs.dropWhile isToken with
  | '/' :: rest =>
    let subtype := rest.takeWhile isToken
    let wellFormed :=
      match rest.dropWhile isToken with
      | [] => true
      | ';' :: parameters => subtype ≠ [] && areParameters (parameters.length + 1) parameters
      | _ => false
    let (name, suffix) := suffix? subtype
    let json := "json".toList
    wellFormed && type = "application".toList && (name = json || suffix = some json)
  | _ => false

end Teller.Gateway.MediaType

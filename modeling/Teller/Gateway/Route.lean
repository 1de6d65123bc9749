/-!
# Routes

Which resource a target names. Segments are compared as they are written; the number of a row is
kept as written, too. A number at the end of a path must not be empty.
-/

namespace Teller.Gateway

/-- What a path names; numbers of rows are as written. -/
inductive Route where
  | health
  | accounts
  | account (id : List Char)
  | entries (id : List Char)
  | transfers
  | transfer (id : List Char)
deriving Repr, DecidableEq, Inhabited

/-- The parts between separators, of which there is one more than separators. -/
def splitOn (separator : Char) : List Char → List (List Char)
  | [] => [[]]
  | c :: cs =>
    if c = separator then [] :: splitOn separator cs
    else
      match splitOn separator cs with
      | [] => [[c]]
      | part :: parts => (c :: part) :: parts

/-- The part before the first separator, and the part after it if there is one. -/
def cutAt (separator : Char) (cs : List Char) : List Char × Option (List Char) :=
  match cs.dropWhile (· ≠ separator) with
  | [] => (cs, none)
  | _ :: rest => (cs.takeWhile (· ≠ separator), some rest)

/-- The target without a scheme and an authority in front. -/
def withoutAuthority (target : List Char) : List Char :=
  match target with
  | '/' :: _ => target
  | _ =>
    match (target.dropWhile (· ≠ ':')) with
    | ':' :: '/' :: '/' :: rest =>
      match rest.dropWhile fun c => c ≠ '/' ∧ c ≠ '?' with
      | '?' :: query => '/' :: '?' :: query
      | [] => ['/']
      | path => path
    | _ => target

/-- The path and the query of a target; a fragment is no part of it. -/
def pathAndQuery (target : String) : List Char × List Char :=
  let (path, query) := cutAt '?' (withoutAuthority (cutAt '#' target.toList).1)
  (path, query.getD [])

namespace Route

def ofPath? (path : List Char) : Option Route :=
  match (splitOn '/' path) with
  | [[], root, version, kind] =>
    if root ≠ "api".toList ∨ version ≠ "v1".toList then none
    else if kind = "health".toList then some .health
    else if kind = "accounts".toList then some .accounts
    else if kind = "transfers".toList then some .transfers
    else none
  | [[], root, version, kind, id] =>
    if root ≠ "api".toList ∨ version ≠ "v1".toList ∨ id = [] then none
    else if kind = "accounts".toList then some (.account id)
    else if kind = "transfers".toList then some (.transfer id)
    else none
  | [[], root, version, kind, id, part] =>
    if root ≠ "api".toList ∨ version ≠ "v1".toList then none
    else if kind = "accounts".toList ∧ part = "entries".toList then some (.entries id)
    else none
  | _ => none

/-- The methods that a route serves. Whatever serves `GET` serves `HEAD`, too. -/
def methods : Route → List String
  | .health => ["GET", "HEAD"]
  | .accounts => ["GET", "HEAD", "POST"]
  | .account _ => ["DELETE", "GET", "HEAD"]
  | .entries _ => ["GET", "HEAD"]
  | .transfers => ["POST"]
  | .transfer _ => ["GET", "HEAD"]

def isPublic : Route → Bool
  | .health => true
  | _ => false

end Route

end Teller.Gateway

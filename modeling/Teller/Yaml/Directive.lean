import Teller.Yaml.Tag
import Teller.Yaml.Token

/-!
# Directives

A line after a percent sign that says something about the document below: the version of the
language, or what a handle stands for.
-/

namespace Teller.Yaml.Directive

/-- The context of a fault in any directive. -/
def context : String := "while scanning a directive"

/-- The context of a fault in a version. -/
def versionContext : String := "while scanning a %YAML directive"

/-- The context of a fault in the meaning of a handle. -/
def handleContext : String := "while scanning a %TAG directive"

/-- The name of a directive. -/
def readName (cs : List Char) : Except Fault (List Char × List Char) :=
  let rest := cs.dropWhile isWord
  match cs.takeWhile isWord with
  | [] => .error ⟨"could not find expected directive name", some context⟩
  | name =>
    if atGap rest then .ok (name, rest)
    else .error ⟨"found unexpected non-alphabetical character", some context⟩

/-- A number of a version, of nine digits at most. -/
def readNumber (cs : List Char) : Except Fault (Nat × List Char) :=
  let ds := cs.takeWhile Numeral.isDigit
  if 9 < ds.length then .error ⟨"found extremely long version number", some versionContext⟩
  else
    match Numeral.ofDigits? 10 ds with
    | none => .error ⟨"did not find expected version number", some versionContext⟩
    | some n => .ok (n, cs.dropWhile Numeral.isDigit)

/-- A version. -/
def readVersion (cs : List Char) : Except Fault (Token × List Char) := do
  let (major, rest) ← readNumber (cs.dropWhile isBlank)
  match rest with
  | '.' :: rest => do
    let (minor, rest) ← readNumber rest
    return (.version major minor, rest)
  | _ => .error ⟨"did not find expected digit or '.' character", some versionContext⟩

/-- A handle and what it stands for. -/
def readHandle (cs : List Char) : Except Fault (Token × List Char) := do
  let (handle, rest) ← Tag.readHandle .directive (cs.dropWhile isBlank)
  if ¬ rest.head?.any isBlank then
    .error ⟨"did not find expected whitespace", some handleContext⟩
  else
    let (lead, rest) ← Tag.readUri .directive true [] (rest.dropWhile isBlank)
    if atGap rest then return (.handle (.ofList handle) (.ofList lead), rest)
    else .error ⟨"did not find expected whitespace or line break", some handleContext⟩

/-- Reads a directive after its percent sign, up to the next line. -/
def read (c : Cursor) : Except Fault (Token × Cursor) := do
  let (name, rest) ← readName c.left
  let (token, rest) ←
    if name = "YAML".toList then readVersion rest
    else if name = "TAG".toList then readHandle rest
    else .error ⟨"found unknown directive name", some context⟩
  let c := ((c.goTo rest).skipWhile isBlank).skipComment
  if atLineEnd c.left then return (token, c.skipBreak)
  else .error ⟨"did not find expected comment or line break", some context⟩

end Teller.Yaml.Directive

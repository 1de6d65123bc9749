import Teller.Yaml.Scalar.Basic

/-!
# Plain scalars

A plain scalar ends before a comment, a colon with a gap behind it, a document mark or a line that
is not indented enough; inside brackets also before any sign that has a meaning there.
-/

namespace Teller.Yaml.Plain

/-- The character ends a plain scalar inside brackets. -/
def isBracketSign (c : Char) : Bool :=
  c = ',' || c = '[' || c = ']' || c = '\x7b' || c = '\x7d'

/-- The characters up to the next gap or the end of the scalar, and the rest. -/
def word (flow : Bool) : List Char → Except Fault (List Char × List Char)
  | [] => .ok ([], [])
  | c :: rest =>
    if isGap c then .ok ([], c :: rest)
    else if flow && c = ':' && (match rest with
        | d :: _ => isBracketSign d || d = '?'
        | [] => false) then
      .error ⟨"found unexpected ':'", some "while scanning a plain scalar"⟩
    else if (c = ':' && atGap rest) || (flow && isBracketSign c) then .ok ([], c :: rest)
    else do
      let (cs, rest) ← word flow rest
      .ok (c :: cs, rest)

/-- What was read of a plain scalar: its text, and whether it ended after a line break. -/
structure Outcome where
  text : List Char
  broken : Bool
  cursor : Cursor

/-- Reads on after `text` and a gap. -/
def readOn (flow : Bool) (margin : Int) : Nat → Cursor → List Char → Gap → Except Fault Outcome
  | 0, c, text, gap => .ok ⟨text, gap.broken, c⟩
  | fuel + 1, c, text, gap =>
    if c.atDocumentMark ∨ c.left.head? = some '#' then .ok ⟨text, gap.broken, c⟩
    else do
      let (cs, rest) ← word flow c.left
      if cs = [] then .ok ⟨text, gap.broken, c⟩
      else
        let text := text ++ gap.text ++ cs
        let c := c.goTo rest
        if c.left = [] ∨ ¬ atGap c.left then .ok ⟨text, false, c⟩
        else
          let (gap, c) ← Gap.read margin c.steps c .none
          if ¬ flow ∧ (c.column : Int) < margin then .ok ⟨text, gap.broken, c⟩
          else readOn flow margin fuel c text gap

/-- Reads a plain scalar; its lines but the first stand right of `indent` outside brackets. -/
def read (flow : Bool) (indent : Int) (c : Cursor) : Except Fault Outcome :=
  readOn flow (indent + 1) c.steps c [] .none

end Teller.Yaml.Plain

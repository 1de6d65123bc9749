import Teller.Yaml.Cursor

/-!
# Scalars

The text of a scalar and how it was written. Where a scalar runs over several lines, the gaps
between its lines are folded: one line break is a blank, and of several all but the first are kept.
-/

namespace Teller.Yaml

inductive Style where
  | plain
  | singleQuoted
  | doubleQuoted
  | literal
  | folded
deriving Repr, DecidableEq, Inhabited

/-- A gap inside a scalar, as it is read. -/
structure Gap where
  /-- The blanks, as long as there is no line break. -/
  blanks : List Char
  /-- A line break was passed. -/
  broken : Bool
  first : Option Char
  others : List Char
deriving Repr, DecidableEq, Inhabited

namespace Gap

def none : Gap := ⟨[], false, .none, []⟩

/-- A gap after a line break that does not count. -/
def escaped : Gap := ⟨[], true, .none, []⟩

/-- What the gap stands for. -/
def text (g : Gap) : List Char :=
  if g.broken then
    match g.first with
    | some '\n' => if g.others = [] then [' '] else g.others
    | some b => b :: g.others
    | .none => g.others
  else g.blanks

def withBreak (g : Gap) (b : Char) : Gap :=
  if g.broken then { g with others := g.others ++ [b] }
  else { g with blanks := [], broken := true, first := some b }

/-- The gap with a blank more; blanks count only before the first line break. -/
def withBlank (g : Gap) (b : Char) : Gap :=
  if g.broken then g else { g with blanks := g.blanks ++ [b] }

/-- Reads a gap. A tab left of `margin` is allowed only in the first line. -/
def read (margin : Int) : Nat → Cursor → Gap → Except Fault (Gap × Cursor)
  | 0, c, g => .ok (g, c)
  | fuel + 1, c, g =>
    match c.left with
    | [] => .ok (g, c)
    | b :: _ =>
      if isBlank b then
        if g.broken ∧ (c.column : Int) < margin ∧ b = '\t' then
          .error ⟨"found a tab character that violates indentation",
            some "while scanning a plain scalar"⟩
        else read margin fuel (c.skip 1) (g.withBlank b)
      else
        match c.break? with
        | some (b, c) => read margin fuel c (g.withBreak b)
        | .none => .ok (g, c)

end Gap

end Teller.Yaml

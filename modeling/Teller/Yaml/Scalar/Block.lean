import Teller.Numeral
import Teller.Yaml.Scalar.Basic

/-!
# Block scalars

The indented lines after a bar, kept as they are, or after a greater-than sign, folded. A header says
how far they are indented, unless the first line shows it, and what becomes of the breaks at the end.
-/

namespace Teller.Yaml.Block

/-- What becomes of the line breaks at the end. -/
inductive Chomping where
  /-- All are dropped. -/
  | strip
  /-- The first one is kept. -/
  | clip
  /-- All are kept. -/
  | keep
deriving Repr, DecidableEq, Inhabited

/-- The header: chomping, and the indentation if it is given. -/
structure Header where
  chomping : Chomping
  increment : Option Nat
deriving Repr, DecidableEq, Inhabited

def context : String := "while scanning a block scalar"

/-- The chomping that may stand here. -/
def chomping? : List Char → Option Chomping × List Char
  | '+' :: rest => (some .keep, rest)
  | '-' :: rest => (some .strip, rest)
  | cs => (none, cs)

/-- The indentation that may stand here. -/
def increment? : List Char → Except Fault (Option Nat × List Char)
  | c :: rest =>
    match Numeral.digitValue? 10 c with
    | some 0 => .error ⟨"found an indentation indicator equal to 0", some context⟩
    | some n => .ok (some n, rest)
    | none => .ok (none, c :: rest)
  | [] => .ok (none, [])

/-- The header, its parts in either order. -/
def readHeader (cs : List Char) : Except Fault (Header × List Char) := do
  match chomping? cs with
  | (some chomping, rest) =>
    let (increment, rest) ← increment? rest
    return (⟨chomping, increment⟩, rest)
  | (none, rest) =>
    match ← increment? rest with
    | (some n, rest) =>
      let (chomping, rest) := chomping? rest
      return (⟨chomping.getD .clip, some n⟩, rest)
    | (none, rest) => return (⟨.clip, none⟩, rest)

/-- Line breaks and indentation before a line, and the greatest column that was seen. Where the
indentation is not known yet, all spaces belong to it. -/
def readBreaks (indent : Option Nat) :
    Nat → Cursor → List Char → Nat → Except Fault (List Char × Nat × Cursor)
  | 0, c, breaks, widest => .ok (breaks, widest, c)
  | fuel + 1, c, breaks, widest =>
    let spaces := (c.left.takeWhile (· = ' ')).length
    let c := c.skip (match indent with
      | some n => min spaces (n - c.column)
      | none => spaces)
    let widest := max widest c.column
    let inside := indent.all (c.column < ·)
    if inside && c.left.head? == some '\t' then
      .error ⟨"found a tab character where an indentation space is expected", some context⟩
    else
      match c.break? with
      | some (b, c) => readBreaks indent fuel c (breaks ++ [b]) widest
      | none => .ok (breaks, widest, c)

/-- The state between two lines. -/
structure Lines where
  text : List Char
  /-- The break of the last line. -/
  last : Option Char
  /-- The breaks of empty lines after it. -/
  empty : List Char
  /-- The last line began with a blank. -/
  blank : Bool

/-- Reads the lines at an indentation. -/
def readLines (folded : Bool) (indent : Nat) : Nat → Cursor → Lines → Except Fault (Lines × Cursor)
  | 0, c, s => .ok (s, c)
  | fuel + 1, c, s =>
    if c.column ≠ indent ∨ c.left = [] then .ok (s, c)
    else do
      let blank := match c.left with
        | b :: _ => isBlank b
        | [] => false
      let folds := folded && s.last == some '\n' && !s.blank && !blank
      let before :=
        if folds then (if s.empty = [] then [' '] else s.empty)
        else s.last.toList ++ s.empty
      let content := c.left.takeWhile fun d => !isBreak d
      let c := c.skipWhile fun d => !isBreak d
      let (last, c) := match c.break? with
        | some (b, c) => (some b, c)
        | none => (none, c)
      let (empty, _, c) ← readBreaks (some indent) c.steps c [] 0
      readLines folded indent fuel c ⟨s.text ++ before ++ content, last, empty, blank⟩

/-- Reads a block scalar after its sign; `indent` is the indentation around it. -/
def read (folded : Bool) (indent : Int) (c : Cursor) : Except Fault (List Char × Cursor) := do
  let (header, rest) ← readHeader c.left
  let c := ((c.goTo rest).skipWhile isBlank).skipComment
  if ¬ atLineEnd c.left then
    .error ⟨"did not find expected comment or line break", some context⟩
  else
    let c := c.skipBreak
    let given := header.increment.map fun n => if 0 ≤ indent then indent.toNat + n else n
    let (empty, widest, c) ← readBreaks given c.steps c [] 0
    let column := given.getD (max widest (max (indent + 1).toNat 1))
    let (s, c) ← readLines folded column c.steps c ⟨[], none, empty, false⟩
    let tail := match header.chomping with
      | .strip => []
      | .clip => s.last.toList
      | .keep => s.last.toList ++ s.empty
    return (s.text ++ tail, c)

end Teller.Yaml.Block

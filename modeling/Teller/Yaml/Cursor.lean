/-!
# Cursors

A place in a text: what is left of it, and how far it is from the start of the text and of the line.
There are five line breaks; a carriage return and a line feed together are one.
-/

namespace Teller.Yaml

/-- Why a text is no YAML, in words: the problem, and what was being read. -/
structure Fault where
  problem : String
  context : Option String
deriving Repr, DecidableEq, Inhabited

def Fault.message (f : Fault) : String :=
  match f.context with
  | some context => f.problem ++ ", " ++ context
  | none => f.problem

/-! ### Kinds of characters -/

def isAllowed (c : Char) : Bool :=
  let n := c.toNat
  n == 0x09 || n == 0x0a || n == 0x0d || (0x20 ≤ n && n ≤ 0x7e) || n == 0x85 ||
    (0xa0 ≤ n && n ≤ 0xd7ff) || (0xe000 ≤ n && n ≤ 0xfffd) || (0x10000 ≤ n && n ≤ 0x10ffff)

def isBlank (c : Char) : Bool :=
  c = ' ' || c = '\t'

def isBreak (c : Char) : Bool :=
  c = '\n' || c = '\r' || c = '\u0085' || c = '\u2028' || c = '\u2029'

def isGap (c : Char) : Bool :=
  isBlank c || isBreak c

/-- The character may stand in the name of an anchor. -/
def isWord (c : Char) : Bool :=
  c.isAlphanum || c = '_' || c = '-'

/-- The text is at its end or goes on with a gap. -/
def atGap : List Char → Bool
  | [] => true
  | c :: _ => isGap c

def atLineEnd : List Char → Bool
  | [] => true
  | c :: _ => isBreak c

/-! ### Cursors -/

/-- A place in a text. -/
structure Cursor where
  left : List Char
  /-- The characters before it. -/
  index : Nat
  /-- The lines before it. -/
  line : Nat
  /-- The characters before it in its line. -/
  column : Nat
deriving Repr, Inhabited

namespace Cursor

def start (text : List Char) : Cursor :=
  ⟨text, 0, 0, 0⟩

/-- An upper bound for the steps that a reader takes from here, if each passes a character. -/
def steps (c : Cursor) : Nat :=
  c.left.length + 2

/-- The cursor after some characters of the line, with this left. -/
def goTo (c : Cursor) (left : List Char) : Cursor :=
  let n := c.left.length - left.length
  { c with left := left, index := c.index + n, column := c.column + n }

/-- The cursor after the next characters of the line. -/
def skip (c : Cursor) (n : Nat) : Cursor :=
  c.goTo (c.left.drop n)

/-- The cursor after the characters of the line that satisfy `p`. -/
def skipWhile (c : Cursor) (p : Char → Bool) : Cursor :=
  c.goTo (c.left.dropWhile p)

/-- The cursor in the next line, with this left, after a break of `n` characters. -/
def nextLine (c : Cursor) (n : Nat) (left : List Char) : Cursor :=
  ⟨left, c.index + n, c.line + 1, 0⟩

/-- The line break at the cursor and the cursor after it. All breaks count as a line feed but for
the two separators of Unicode. -/
def break? (c : Cursor) : Option (Char × Cursor) :=
  match c.left with
  | '\r' :: '\n' :: rest => some ('\n', c.nextLine 2 rest)
  | b :: rest =>
    if b = '\u2028' ∨ b = '\u2029' then some (b, c.nextLine 1 rest)
    else if isBreak b then some ('\n', c.nextLine 1 rest)
    else none
  | [] => none

/-- The cursor after the line break that may stand here. -/
def skipBreak (c : Cursor) : Cursor :=
  match c.break? with
  | some (_, c) => c
  | none => c

/-- The cursor at the end of the line, after a comment that may stand here. -/
def skipComment (c : Cursor) : Cursor :=
  match c.left with
  | '#' :: _ => c.skipWhile fun d => !isBreak d
  | _ => c

/-- The mark stands at the start of a line here, followed by a gap. -/
def atMark (c : Cursor) (mark : Char) : Bool :=
  c.column = 0 &&
    match c.left with
    | x :: y :: z :: rest => x = mark && y = mark && z = mark && atGap rest
    | _ => false

/-- The start or the end of a document is marked here. -/
def atDocumentMark (c : Cursor) : Bool :=
  c.atMark '-' || c.atMark '.'

end Cursor

end Teller.Yaml

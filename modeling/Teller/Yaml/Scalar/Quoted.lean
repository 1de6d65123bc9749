import Teller.Numeral
import Teller.Yaml.Scalar.Basic

/-!
# Quoted scalars

Between single quotes a quote is written twice, and nothing else is special. Between double quotes a
backslash begins an escape; before a line break it takes the break away.
-/

namespace Teller.Yaml.Quoted

/-- The character of an escape of one letter. -/
def escaped? (c : Char) : Option Char :=
  match c with
  | '0' => some '\x00'
  | 'a' => some '\x07'
  | 'b' => some '\x08'
  | 't' => some '\t'
  | '\t' => some '\t'
  | 'n' => some '\n'
  | 'v' => some '\x0b'
  | 'f' => some '\x0c'
  | 'r' => some '\r'
  | 'e' => some '\x1b'
  | ' ' => some ' '
  | '"' => some '"'
  | '/' => some '/'
  | '\\' => some '\\'
  | 'N' => some '\u0085'
  | '_' => some '\u00a0'
  | 'L' => some '\u2028'
  | 'P' => some '\u2029'
  | _ => none

/-- How many digits follow the letter of an escape by number. -/
def digitCount? (c : Char) : Option Nat :=
  match c with
  | 'x' => some 2
  | 'u' => some 4
  | 'U' => some 8
  | _ => none

def context : String := "while parsing a quoted scalar"

/-- The character of an escape by number. -/
def numbered (count : Nat) (cs : List Char) : Except Fault Char :=
  let ds := cs.take count
  if ds.length < count then
    .error ⟨"did not find expected hexdecimal number", some context⟩
  else
    match Numeral.ofDigits? 16 ds with
    | none => .error ⟨"did not find expected hexdecimal number", some context⟩
    | some n =>
      if (0xd800 ≤ n ∧ n ≤ 0xdfff) ∨ 0x10ffff < n then
        .error ⟨"found invalid Unicode character escape code", some context⟩
      else .ok (Char.ofNat n)

/-- What was read of a line of a quoted scalar. -/
structure Word where
  text : List Char
  /-- A line break follows that does not count. -/
  escaped : Bool
  rest : List Char

/-- The word with a character in front. -/
def Word.cons (c : Char) (w : Word) : Word :=
  { w with text := c :: w.text }

/-- The characters up to the closing quote or the next gap. -/
def word (quote : Char) : Nat → List Char → Except Fault Word
  | 0, cs => .ok ⟨[], false, cs⟩
  | _, [] => .ok ⟨[], false, []⟩
  | fuel + 1, c :: rest =>
    if isGap c then .ok ⟨[], false, c :: rest⟩
    else if c = quote then
      match rest with
      | d :: more =>
        if quote = '\'' ∧ d = '\'' then do return (← word quote fuel more).cons '\''
        else .ok ⟨[], false, c :: rest⟩
      | [] => .ok ⟨[], false, c :: rest⟩
    else if quote = '"' ∧ c = '\\' then
      match rest with
      | [] => .error ⟨"found unknown escape character", some context⟩
      | d :: more =>
        if isBreak d then .ok ⟨[], true, rest⟩
        else
          match escaped? d, digitCount? d with
          | some e, _ => do return (← word quote fuel more).cons e
          | none, some count => do
            let e ← numbered count more
            return (← word quote fuel (more.drop count)).cons e
          | none, none => .error ⟨"found unknown escape character", some context⟩
    else do return (← word quote fuel rest).cons c

/-- Reads on after `text`. -/
def readOn (quote : Char) : Nat → Cursor → List Char → Except Fault (List Char × Cursor)
  | 0, c, text => .ok (text, c)
  | fuel + 1, c, text =>
    if c.atDocumentMark then
      .error ⟨"found unexpected document indicator", some "while scanning a quoted scalar"⟩
    else if c.left = [] then
      .error ⟨"found unexpected end of stream", some "while scanning a quoted scalar"⟩
    else do
      let w ← word quote c.steps c.left
      let text := text ++ w.text
      let c := c.goTo w.rest
      if ¬ w.escaped ∧ c.left.head? = some quote then .ok (text, c.skip 1)
      else
        let (gap, c) ←
          if w.escaped then Gap.read 0 c.steps c.skipBreak .escaped else Gap.read 0 c.steps c .none
        readOn quote fuel c (text ++ gap.text)

/-- Reads a scalar after its opening quote. -/
def read (quote : Char) (c : Cursor) : Except Fault (List Char × Cursor) :=
  readOn quote c.steps c []

end Teller.Yaml.Quoted

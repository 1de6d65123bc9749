import Teller.Numeral

/-!
# Strings of JSON

A string is first read as pieces, characters and 16-bit units written by number, and then joined:
two units that form a surrogate pair are one character, and a surrogate without its partner is no
character at all.
-/

namespace Teller.Json

inductive Piece where
  | char (c : Char)
  /-- A 16-bit unit written by number. -/
  | unit (n : Nat)
deriving Repr, DecidableEq, Inhabited

namespace Piece

/-- The unit of four hexadecimal digits. -/
def hex (a b c d : Char) : Option Nat :=
  Numeral.ofDigits? 16 [a, b, c, d]

/-- The character of a letter after a backslash. -/
def escaped (c : Char) : Option Char :=
  match c with
  | '"' => some '"'
  | '\\' => some '\\'
  | '/' => some '/'
  | 'b' => some '\x08'
  | 'f' => some '\x0c'
  | 'n' => some '\n'
  | 'r' => some '\r'
  | 't' => some '\t'
  | _ => none

/-- The pieces up to the closing quote. -/
def read : List Char → Option (List Piece × List Char)
  | [] => none
  | '"' :: rest => some ([], rest)
  | '\\' :: 'u' :: a :: b :: c :: d :: rest => do
    let n ← hex a b c d
    let (ps, rest) ← read rest
    return (.unit n :: ps, rest)
  | '\\' :: e :: rest => do
    let c ← escaped e
    let (ps, rest) ← read rest
    return (.char c :: ps, rest)
  | c :: rest =>
    if c.toNat < 0x20 ∨ c = '\\' then none
    else do
      let (ps, rest) ← read rest
      return (.char c :: ps, rest)

/-- The first half of a pair. -/
def IsHigh (n : Nat) : Prop := 0xd800 ≤ n ∧ n < 0xdc00

/-- The second half of a pair. -/
def IsLow (n : Nat) : Prop := 0xdc00 ≤ n ∧ n < 0xe000

instance : DecidablePred IsHigh := fun n => inferInstanceAs (Decidable (0xd800 ≤ n ∧ n < 0xdc00))

instance : DecidablePred IsLow := fun n => inferInstanceAs (Decidable (0xdc00 ≤ n ∧ n < 0xe000))

/-- The characters of the pieces, unless a half of a pair stands alone. -/
def join : List Piece → Option (List Char)
  | [] => some []
  | .char c :: ps => (join ps).map (c :: ·)
  | .unit n :: ps =>
    if IsLow n then none
    else if IsHigh n then
      match ps with
      | .unit m :: ps =>
        if IsLow m then
          (join ps).map (Char.ofNat (0x10000 + (n - 0xd800) * 0x400 + (m - 0xdc00)) :: ·)
        else none
      | _ => none
    else (join ps).map (Char.ofNat n :: ·)

end Piece

/-! ### Writing -/

/-- The written form of a character inside quotes: quotes, backslashes and control characters do not
stand for themselves. -/
def writeChar (c : Char) : List Char :=
  match c with
  | '"' => ['\\', '"']
  | '\\' => ['\\', '\\']
  | '\x08' => ['\\', 'b']
  | '\x0c' => ['\\', 'f']
  | '\n' => ['\\', 'n']
  | '\r' => ['\\', 'r']
  | '\t' => ['\\', 't']
  | c => if c.toNat < 0x20 then '\\' :: 'u' :: Numeral.paddedHex 4 c.toNat else [c]

def writeText (s : String) : List Char :=
  '"' :: s.toList.flatMap writeChar ++ ['"']

end Teller.Json

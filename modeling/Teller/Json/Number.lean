import Teller.Decimal.Binary64
import Teller.Numeral

/-!
# Numbers of JSON

A number is first read as written, and then valued. Without point and exponent it is a whole number
if 64 bits hold it, signed or not. Anything else is a floating-point number: as many digits as 64
bits hold are taken as a whole, and scaled by one power of ten.
-/

namespace Teller.Json

/-- A number as written. -/
structure Numeral where
  negative : Bool
  whole : List Char
  /-- The digits after the point, if there is one. -/
  fraction : List Char
  /-- Whether the exponent is negative, and its digits. -/
  exponent : Option (Bool × List Char)
deriving Repr, DecidableEq, Inhabited

inductive Number where
  | int (n : Int)
  | float (x : Decimal.Binary64)
deriving Repr, DecidableEq, Inhabited

namespace Numeral

/-! ### Reading -/

/-- The digits at the front, of which there is at least one. -/
def digits1 (cs : List Char) : Option (List Char × List Char) :=
  let ds := cs.takeWhile Teller.Numeral.isDigit
  if ds = [] then none else some (ds, cs.dropWhile Teller.Numeral.isDigit)

/-- The digits before the point: a zero stands alone. -/
def readWhole : List Char → Option (List Char × List Char)
  | '0' :: rest =>
    match rest with
    | c :: _ => if Teller.Numeral.isDigit c then none else some (['0'], rest)
    | [] => some (['0'], rest)
  | cs => digits1 cs

def readFraction : List Char → Option (List Char × List Char)
  | '.' :: rest => digits1 rest
  | cs => some ([], cs)

def readExponent : List Char → Option (Option (Bool × List Char) × List Char)
  | c :: rest =>
    if c = 'e' ∨ c = 'E' then do
      let (negative, rest) := match rest with
        | '-' :: rest => (true, rest)
        | '+' :: rest => (false, rest)
        | _ => (false, rest)
      let (ds, rest) ← digits1 rest
      return (some (negative, ds), rest)
    else some (none, c :: rest)
  | [] => some (none, [])

def read (cs : List Char) : Option (Numeral × List Char) := do
  let (negative, cs) := match cs with
    | '-' :: rest => (true, rest)
    | _ => (false, cs)
  let (whole, cs) ← readWhole cs
  let (fraction, cs) ← readFraction cs
  let (exponent, cs) ← readExponent cs
  return (⟨negative, whole, fraction, exponent⟩, cs)

/-! ### Value -/

/-- The number of all digits, or of those that 64 bits hold, and the digits that are left. -/
def absorb (n : Nat) : List Char → Nat × List Char
  | [] => (n, [])
  | c :: cs =>
    let m := n * 10 + (Teller.Numeral.digitValue? 10 c).getD 0
    if m < Nat.pow 2 64 then absorb m cs else (n, c :: cs)

def powerOfTen (k : Nat) : Decimal.Binary64 :=
  (Decimal.Binary64.ofRatio? false (Nat.pow 10 k) 1).getD default

def greatestPower : Nat := 308

/-- The number divided some times by the greatest power of ten. -/
def shrink (x : Decimal.Binary64) : Nat → Option Decimal.Binary64
  | 0 => some x
  | n + 1 =>
    if x.mantissa = 0 then some x
    else
      match x.over? (powerOfTen greatestPower) with
      | some y => shrink y n
      | none => none

/-- The number times a power of ten, unless it is too large. What is below the least of these powers
is divided by in steps. -/
def scale (x : Decimal.Binary64) (e : Int) : Option Decimal.Binary64 :=
  if x.mantissa = 0 then some x
  else if 0 ≤ e then
    if e ≤ greatestPower then x.times? (powerOfTen e.toNat) else none
  else do
    let n := (-e).toNat
    let steps := (n - 1) / greatestPower
    let y ← shrink x steps
    y.over? (powerOfTen (n - steps * greatestPower))

/-- The value, unless it is too large for a floating-point number. -/
def value? (l : Numeral) : Option Number :=
  let (whole, left) := absorb 0 l.whole
  let float (x : Option Decimal.Binary64) : Option Number :=
    x.map fun x => .float { x with negative := l.negative }
  if left = [] ∧ l.fraction = [] ∧ l.exponent = none ∧
      ¬ (l.negative ∧ (whole = 0 ∨ Nat.pow 2 63 < whole)) then
    some (.int (if l.negative then -whole else whole))
  else
    let (significand, rest) := absorb whole l.fraction
    let shift : Int := (left.length : Int) - (l.fraction.length - rest.length)
    let base := (Decimal.Binary64.ofRatio? false significand 1).getD default
    match l.exponent with
    | none => float (scale base shift)
    | some (negative, ds) =>
      let e := (Teller.Numeral.ofDigits? 10 ds).getD 0
      if e ≤ 2147483647 then float (scale base (if negative then shift - e else shift + e))
      else if significand = 0 ∨ negative then float (some ⟨false, 0, Decimal.Binary64.leastExponent⟩)
      else none

end Numeral

end Teller.Json

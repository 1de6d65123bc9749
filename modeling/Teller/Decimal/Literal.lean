import Teller.Decimal.Binary64
import Teller.Numeral

/-!
# Decimal literals

Decimals with an optional point and an optional power of ten, valued as the nearest floating-point
number. Digits may be missing before the point or after it, but not on both sides.
-/

namespace Teller.Decimal.Literal

/-- The exponent of ten, up to the end of the text. -/
def exponent? : List Char → Option Int
  | [] => some 0
  | c :: rest =>
    if c = 'e' ∨ c = 'E' then
      match rest with
      | '-' :: ds => (Numeral.ofDigits? 10 ds).map fun n => -(n : Int)
      | '+' :: ds => (Numeral.ofDigits? 10 ds).map fun n => (n : Int)
      | ds => (Numeral.ofDigits? 10 ds).map fun n => (n : Int)
    else none

/-- The number `digits · 10 ^ exponent`, unless it is too large. What is far above or below all
floating-point numbers is not computed. -/
def value? (negative : Bool) (digits : List Char) (exponent : Int) : Option Binary64 :=
  let n := (Numeral.ofDigits? 10 digits).getD 0
  let top := (Numeral.digits 10 n).length + exponent
  if n = 0 ∨ top < -400 then Binary64.ofRatio? negative 0 1
  else if 400 < top then none
  else if 0 ≤ exponent then Binary64.ofRatio? negative (n * Nat.pow 10 exponent.toNat) 1
  else Binary64.ofRatio? negative n (Nat.pow 10 (-exponent).toNat)

/-- The number that a text shows, without its sign. -/
def readSize? (negative : Bool) (cs : List Char) : Option Binary64 :=
  let whole := cs.takeWhile Numeral.isDigit
  let rest := cs.dropWhile Numeral.isDigit
  let (fraction, rest) := match rest with
    | '.' :: rest => (rest.takeWhile Numeral.isDigit, rest.dropWhile Numeral.isDigit)
    | rest => ([], rest)
  if whole ++ fraction = [] then none
  else do
    let e ← exponent? rest
    value? negative (whole ++ fraction) (e - fraction.length)

/-- The number that a text shows, after an optional minus. -/
def read? : List Char → Option Binary64
  | '-' :: cs => readSize? true cs
  | cs => readSize? false cs

end Teller.Decimal.Literal

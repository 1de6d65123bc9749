/-!
# Binary floating point

Finite numbers of 64-bit binary floating point, `± mantissa · 2 ^ exponent`, in exact integer
arithmetic. `Binary64.ofRatio?` rounds a ratio to the nearest of them, a tie to the even mantissa;
products and quotients are rounded ratios.
-/

namespace Teller.Decimal

/-- A finite number `± mantissa · 2 ^ exponent`. -/
structure Binary64 where
  negative : Bool
  /-- At most 53 bits. -/
  mantissa : Nat
  /-- At least -1074. -/
  exponent : Int
deriving Repr, DecidableEq, Inhabited

namespace Binary64

def leastExponent : Int := -1074

/-- The greatest exponent of a mantissa of 53 bits. -/
def greatestExponent : Int := 971

/-- The quotient rounded to the nearest integer, a tie to the even one. -/
def divideEven (num den : Nat) : Nat :=
  let q := num / den
  let r := num % den
  if den < 2 * r then q + 1
  else if 2 * r = den ∧ q % 2 = 1 then q + 1
  else q

/-- The ratio `num / den · 2 ^ (-e)`, rounded to the nearest integer. -/
def scaled (num den : Nat) (e : Int) : Nat :=
  if 0 ≤ e then divideEven num (den * Nat.pow 2 e.toNat)
  else divideEven (num * Nat.pow 2 (-e).toNat) den

/-- The exponent at which the ratio has a mantissa of 53 bits, or the least exponent. -/
def exponentFor (num den : Nat) : Int :=
  let e : Int := (num.log2 : Int) - den.log2 - 53
  let wide :=
    if 0 ≤ e then Nat.pow 2 53 * (den * Nat.pow 2 e.toNat) ≤ num
    else Nat.pow 2 53 * den ≤ num * Nat.pow 2 (-e).toNat
  max (if wide then e + 1 else e) leastExponent

/-- The number nearest to a ratio, unless it is too large. -/
def ofRatio? (negative : Bool) (num den : Nat) : Option Binary64 :=
  if num = 0 then some ⟨negative, 0, leastExponent⟩
  else
    let e := exponentFor num den
    let m := scaled num den e
    let (m, e) := if m = Nat.pow 2 53 then (Nat.pow 2 52, e + 1) else (m, e)
    if greatestExponent < e then none else some ⟨negative, m, e⟩

/-- The number as a ratio, without its sign. -/
def ratio (x : Binary64) : Nat × Nat :=
  if 0 ≤ x.exponent then (x.mantissa * Nat.pow 2 x.exponent.toNat, 1)
  else (x.mantissa, Nat.pow 2 (-x.exponent).toNat)

/-- The product of the sizes, with the sign of the first. -/
def times? (x y : Binary64) : Option Binary64 :=
  let (a, b) := x.ratio
  let (c, d) := y.ratio
  ofRatio? x.negative (a * c) (b * d)

/-- The quotient of the sizes, with the sign of the first; the second is not zero. -/
def over? (x y : Binary64) : Option Binary64 :=
  let (a, b) := x.ratio
  let (c, d) := y.ratio
  ofRatio? x.negative (a * d) (b * c)

end Binary64

end Teller.Decimal

import Teller.Decimal.Binary64
import Teller.Numeral

/-!
# Shortest decimals

The decimal with the fewest digits that rounds to a given floating-point number, and of those the
nearest to it. `Layout` says how such a decimal is written.

All numbers that round to `m · 2 ^ e` form an interval around it, whose ends belong to it iff `m` is
even. If a decimal of `n` digits lies in the interval, then so does one of the number's two
neighbours on the grid of that precision, so it is enough to try those, precision by precision.
-/

namespace Teller.Decimal

/-- The decimal `digits · 10 ^ exponent`. -/
structure Scientific where
  digits : Nat
  exponent : Int
deriving Repr, DecidableEq, Inhabited

namespace Shortest

/-- The interval of a number in quarters of its unit: lower end, number, upper end. Below a power of
two the numbers lie twice as close. -/
def quarters (x : Binary64) : Nat × Nat × Nat :=
  let m := 4 * x.mantissa
  let lower := if x.mantissa = Nat.pow 2 52 ∧ Binary64.leastExponent < x.exponent then m - 1 else m - 2
  (lower, m, m + 2)

/-- Compares `a · 2 ^ e` with `b · 10 ^ k` as integers with common factors removed. -/
def onCommonScale (e k : Int) (a b : Nat) : Nat × Nat :=
  (a * Nat.pow 2 e.toNat * Nat.pow 10 (-k).toNat, b * Nat.pow 10 k.toNat * Nat.pow 2 (-e).toNat)

def roundsTo (x : Binary64) (b : Nat) (k : Int) : Bool :=
  let (lower, _, upper) := quarters x
  let e := x.exponent - 2
  let (lo, c) := onCommonScale e k lower b
  let (hi, _) := onCommonScale e k upper b
  if x.mantissa % 2 = 0 then lo ≤ c && c ≤ hi else lo < c && c < hi

/-- The number's two neighbours on the grid of `10 ^ k`, the nearer one first; of two equally near,
the even one. -/
def neighbours (x : Binary64) (k : Int) : List Nat :=
  let (num, den) := onCommonScale x.exponent k x.mantissa 1
  let q := num / den
  let r := num % den
  if 2 * r < den ∨ (2 * r = den ∧ q % 2 = 0) then [q, q + 1] else [q + 1, q]

/-- The greatest `k` with `10 ^ k` not above the number, which is not zero. It is searched downwards
from a power that is above it. -/
def magnitude (x : Binary64) : Int :=
  let above (k : Int) : Bool :=
    let (num, den) := onCommonScale x.exponent k x.mantissa 1
    num < den
  let rec down (fuel : Nat) (k : Int) : Int :=
    match fuel with
    | 0 => k
    | fuel + 1 => if above k then down fuel (k - 1) else k
  down 700 309

/-- The first hit among the grids from `count` digits on. -/
def search (x : Binary64) (top : Int) : Nat → Nat → Option Scientific
  | 0, _ => none
  | fuel + 1, count =>
    let k := top - count + 1
    match (neighbours x k).find? fun b => roundsTo x b k with
    | some b => some ⟨b, k⟩
    | none => search x top fuel (count + 1)

end Shortest

/-- The shortest decimal of a number that is not zero; its sign is left out. -/
def shortest (x : Binary64) : Scientific :=
  let top := Shortest.magnitude x
  (Shortest.search x top 17 1).getD ⟨0, 0⟩

/-- How a decimal is written. -/
structure Layout where
  /-- The least power of ten of the first digit that is written without an exponent. -/
  leastPlain : Int
  /-- The greatest such power. -/
  greatestPlain : Int

namespace Layout

/-- Digits, point and digits for a first digit of the power `top`. -/
def plain (ds : List Char) (top : Int) : List Char :=
  if top < 0 then '0' :: '.' :: List.replicate (-top - 1).toNat '0' ++ ds
  else
    let whole := top.toNat + 1
    let integral := ds.take whole ++ List.replicate (whole - ds.length) '0'
    let fraction := ds.drop whole
    integral ++ '.' :: (if fraction = [] then ['0'] else fraction)

/-- First digit, point, other digits, and the power with its sign and at least two digits. -/
def scientific (ds : List Char) (top : Int) : List Char :=
  let mantissa :=
    match ds with
    | [] => []
    | [d] => [d]
    | d :: rest => d :: '.' :: rest
  mantissa ++ 'e' :: (if top < 0 then '-' else '+') :: Numeral.padded 2 top.natAbs

def write (layout : Layout) (x : Binary64) : String :=
  let size :=
    if x.mantissa = 0 then ['0', '.', '0']
    else
      let s := shortest x
      let raw := Numeral.digits 10 s.digits
      let ds := (raw.reverse.dropWhile (· = '0')).reverse
      let top := s.exponent + raw.length - 1
      if layout.leastPlain ≤ top ∧ top ≤ layout.greatestPlain then plain ds top
      else scientific ds top
  String.ofList (if x.negative then '-' :: size else size)

end Layout

end Teller.Decimal

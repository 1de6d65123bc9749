/-!
# Numerals

Numbers written in a radix from two to sixteen, most significant digit first, with small letters
for the digits from ten on. What is written reads back.
-/

namespace Teller.Numeral

def digitChar (d : Nat) : Char :=
  if d < 10 then Char.ofNat (0x30 + d) else Char.ofNat (0x57 + d)

/-- The value of a digit, small or capital. -/
def digitValue? (radix : Nat) (c : Char) : Option Nat :=
  let n := c.toNat
  let value :=
    if 0x30 ≤ n ∧ n ≤ 0x39 then n - 0x30
    else if 0x61 ≤ n ∧ n ≤ 0x66 then n - 0x57
    else if 0x41 ≤ n ∧ n ≤ 0x46 then n - 0x37
    else radix
  if value < radix then some value else none

def isDigit (c : Char) : Bool :=
  (digitValue? 10 c).isSome

/-- The digits of a number, written before those of `tail`. -/
def digitsOnto (radix n : Nat) (tail : List Char) : List Char :=
  if _h : radix < 2 ∨ n < radix then digitChar n :: tail
  else digitsOnto radix (n / radix) (digitChar (n % radix) :: tail)
termination_by n
decreasing_by
  have : 0 < n := by omega
  exact Nat.div_lt_self this (by omega)

/-- The digits of a number; zero has one digit. -/
def digits (radix n : Nat) : List Char :=
  digitsOnto radix n []

/-- The number whose further digits these are, after the digits of `value`. -/
def ofDigitsFrom? (radix : Nat) (value : Nat) : List Char → Option Nat
  | [] => some value
  | c :: cs => do
    let d ← digitValue? radix c
    ofDigitsFrom? radix (value * radix + d) cs

/-- The number that the digits write; there is at least one digit. -/
def ofDigits? (radix : Nat) : List Char → Option Nat
  | [] => none
  | c :: cs => ofDigitsFrom? radix 0 (c :: cs)

/-- The decimal digits of an integer, after a minus if it is negative. -/
def decimal (x : Int) : List Char :=
  if x < 0 then '-' :: digits 10 x.natAbs else digits 10 x.natAbs

/-- The digits of a number in a radix, with zeros in front up to a width. -/
def paddedIn (radix width n : Nat) : List Char :=
  let ds := digits radix n
  List.replicate (width - ds.length) '0' ++ ds

def padded (width n : Nat) : List Char :=
  paddedIn 10 width n

def paddedHex (width n : Nat) : List Char :=
  paddedIn 16 width n

end Teller.Numeral

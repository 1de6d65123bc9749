import Teller.Decimal.Literal
import Teller.Decimal.Shortest
import Teller.Schema

/-!
# Meanings of plain scalars

A plain scalar without a tag may be a word for nothing or a truth value, a whole number in one of
four radixes, or a decimal. Anything else is a text, and so are digits after a leading zero.
-/

namespace Teller.Yaml

/-! ### Words -/

/-- The scalar is a word for nothing. -/
def isNull (s : String) : Bool :=
  ["null", "Null", "NULL", "~"].contains s

/-- The truth value of a word. -/
def bool? (s : String) : Option Bool :=
  if ["true", "True", "TRUE"].contains s then some true
  else if ["false", "False", "FALSE"].contains s then some false
  else none

/-! ### Whole numbers -/

/-- A whole number as written: zero may have a minus. -/
structure Whole where
  negative : Bool
  size : Nat
deriving Repr, DecidableEq, Inhabited

namespace Whole

def value (w : Whole) : Int :=
  if w.negative then -(w.size : Int) else w.size

/-- The number fits into so many bits: with a minus as a signed number, else as an unsigned one. -/
def Fits (bits : Nat) (w : Whole) : Prop :=
  if w.negative then w.size ≤ Nat.pow 2 (bits - 1) else w.size < Nat.pow 2 bits

instance (bits : Nat) (w : Whole) : Decidable (w.Fits bits) :=
  inferInstanceAs (Decidable (if w.negative then _ else _))

/-- The size of a number after its sign. -/
def size? : List Char → Option Nat
  | '0' :: 'x' :: ds => Numeral.ofDigits? 16 ds
  | '0' :: 'o' :: ds => Numeral.ofDigits? 8 ds
  | '0' :: 'b' :: ds => Numeral.ofDigits? 2 ds
  | ['0'] => some 0
  | '0' :: _ => none
  | ds => Numeral.ofDigits? 10 ds

/-- The number that a text shows, if 128 bits hold it. -/
def read? (cs : List Char) : Option Whole := do
  let w : Whole ← match cs with
    | '-' :: cs => (size? cs).map fun n => ⟨true, n⟩
    | '+' :: cs => (size? cs).map fun n => ⟨false, n⟩
    | cs => (size? cs).map fun n => ⟨false, n⟩
  if w.Fits 128 then return w else none

def found (w : Whole) : String :=
  if w.Fits 64 then Found.int w.value
  else Found.int w.value ++ (if w.negative then " as i128" else " as u128")

end Whole

/-! ### Decimals -/

/-- A decimal, or what a computation with decimals may end in. -/
inductive Real where
  | finite (x : Decimal.Binary64)
  | infinite (negative : Bool)
  | undefined
deriving Repr, DecidableEq, Inhabited

namespace Real

/-- Numbers are written without an exponent. -/
def layout : Decimal.Layout := ⟨-400, 400⟩

/-- The number that a text shows. -/
def read? (s : String) : Option Real :=
  if [".inf", ".Inf", ".INF", "+.inf", "+.Inf", "+.INF"].contains s then some (.infinite false)
  else if ["-.inf", "-.Inf", "-.INF"].contains s then some (.infinite true)
  else if [".nan", ".NaN", ".NAN"].contains s then some .undefined
  else
    let size := match s.toList with
      | '+' :: '-' :: _ => none
      | '+' :: cs => Decimal.Literal.read? cs
      | cs => Decimal.Literal.read? cs
    size.map .finite

def found : Real → String
  | .finite x => Found.float (layout.write x)
  | .infinite negative => Found.float (if negative then "-inf" else "inf")
  | .undefined => Found.float "NaN"

end Real

/-! ### Meanings -/

/-- The text is made of digits, but has a leading zero too many. -/
def isPaddedDigits (s : String) : Bool :=
  let ds := match s.toList with
    | '-' :: cs => cs
    | '+' :: cs => cs
    | cs => cs
  match ds with
  | '0' :: d :: rest => (d :: rest).all Numeral.isDigit
  | _ => false

inductive Meaning where
  | null
  | bool (b : Bool)
  | whole (w : Whole)
  | real (x : Real)
  | text
deriving Repr, DecidableEq, Inhabited

def Meaning.ofPlain (s : String) : Meaning :=
  if s = "" ∨ isNull s then .null
  else
    match bool? s, Whole.read? s.toList with
    | some b, _ => .bool b
    | none, some w => .whole w
    | none, none =>
      if isPaddedDigits s then .text
      else
        match Real.read? s with
        | some x => .real x
        | none => .text

end Teller.Yaml

import Teller.Amount
import Teller.Numeral

/-!
# Signed numerals

Amounts in decimal digits after an optional sign. The digits are read one by one, so of two faults
the one that comes first counts.
-/

namespace Teller.Numeral

inductive Fault where
  | empty
  | invalidDigit
  | tooLarge
  | tooSmall
deriving Repr, DecidableEq, Inhabited

def Fault.message : Fault → String
  | .empty => "cannot parse integer from empty string"
  | .invalidDigit => "invalid digit found in string"
  | .tooLarge => "number too large to fit in target type"
  | .tooSmall => "number too small to fit in target type"

/-- The amount whose further digits these are; `negative` says on which side of zero it lies. -/
def readAmountFrom (negative : Bool) (value : Int) : List Char → Except Fault Int
  | [] => .ok value
  | c :: cs =>
    match digitValue? 10 c with
    | none => .error .invalidDigit
    | some d =>
      let next := if negative then value * 10 - d else value * 10 + d
      if Amount.Fits next then readAmountFrom negative next cs
      else .error (if negative then .tooSmall else .tooLarge)

def readAmount : List Char → Except Fault Int
  | [] => .error .empty
  | ['+'] => .error .invalidDigit
  | ['-'] => .error .invalidDigit
  | '+' :: cs => readAmountFrom false 0 cs
  | '-' :: cs => readAmountFrom true 0 cs
  | cs => readAmountFrom false 0 cs

end Teller.Numeral

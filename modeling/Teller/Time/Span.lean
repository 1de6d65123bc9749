import Teller.Numeral

/-!
# Spans of time

A span is a whole number of nanoseconds. Its text names the largest unit of s, ms, µs and ns that
goes into it at least once, with as many decimals as it needs.
-/

namespace Teller.Time

structure Span where
  nanos : Nat
deriving Repr, DecidableEq, Inhabited

namespace Span

/-- The span of some milliseconds. -/
def millis (n : Nat) : Span := ⟨n * 1000000⟩

def zero : Span := ⟨0⟩

instance : Add Span := ⟨fun a b => ⟨a.nanos + b.nanos⟩⟩

instance : LE Span := ⟨fun a b => a.nanos ≤ b.nanos⟩

instance (a b : Span) : Decidable (a ≤ b) :=
  inferInstanceAs (Decidable (a.nanos ≤ b.nanos))

/-- What is left of a span after another one; nothing if the other is longer. -/
instance : Sub Span := ⟨fun a b => ⟨a.nanos - b.nanos⟩⟩

/-- The decimals of a fraction of a unit of `10 ^ width` parts, without zeros at the end. -/
def decimals (width part : Nat) : List Char :=
  ((Numeral.padded width part).reverse.dropWhile (· = '0')).reverse

/-- The span in a unit of `10 ^ width` nanoseconds. -/
def inUnit (s : Span) (width : Nat) (unit : String) : String :=
  let whole := Numeral.digits 10 (s.nanos / Nat.pow 10 width)
  let part := s.nanos % Nat.pow 10 width
  let fraction := if part = 0 then [] else '.' :: decimals width part
  String.ofList (whole ++ fraction) ++ unit

/-- The span in its largest unit. -/
def text (s : Span) : String :=
  if Nat.pow 10 9 ≤ s.nanos then s.inUnit 9 "s"
  else if Nat.pow 10 6 ≤ s.nanos then s.inUnit 6 "ms"
  else if Nat.pow 10 3 ≤ s.nanos then s.inUnit 3 "µs"
  else s.inUnit 0 "ns"

end Span

end Teller.Time

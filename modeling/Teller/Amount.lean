/-!
# Amounts

Balances, movements and row numbers are signed 64-bit integers. They are kept as `Int`, so that a
sum of amounts is an exact sum, and each operation says what it does with a result outside the
range: `fit?` refuses it, `clamp` moves it to the nearer end.
-/

namespace Teller.Amount

def least : Int := -9223372036854775808

def greatest : Int := 9223372036854775807

def Fits (x : Int) : Prop :=
  least ≤ x ∧ x ≤ greatest

instance : DecidablePred Fits := fun x =>
  inferInstanceAs (Decidable (least ≤ x ∧ x ≤ greatest))

/-- The value itself, if it lies in the range. -/
def fit? (x : Int) : Option Int :=
  if Fits x then some x else none

/-- The amount nearest to the value. -/
def clamp (x : Int) : Int :=
  if x < least then least else if greatest < x then greatest else x

theorem fit?_eq_some_iff {x y : Int} : fit? x = some y ↔ x = y ∧ Fits x := by
  unfold fit?
  by_cases h : Fits x <;> simp [h]

theorem fit?_eq_none_iff {x : Int} : fit? x = none ↔ ¬ Fits x := by
  unfold fit?
  by_cases h : Fits x <;> simp [h]

theorem clamp_fits (x : Int) : Fits (clamp x) := by
  unfold clamp Fits least greatest
  split
  · omega
  · split <;> omega

theorem clamp_of_fits {x : Int} (h : Fits x) : clamp x = x := by
  unfold Fits least greatest at h
  unfold clamp least greatest
  split
  · omega
  · split <;> omega

end Teller.Amount

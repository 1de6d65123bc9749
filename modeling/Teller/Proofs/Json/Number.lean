import Teller.Json.Number
import Teller.Proofs.Numeral
import Mathlib.Tactic.SplitIfs

/-!
# Numbers of JSON read back

`read_decimal` and `value?_decimal`: the decimal digits of a whole number of 64 bits, signed or not,
are read as a number without point and exponent, whose value is this number.
-/

namespace Teller.Json

namespace Numeral

open Teller.Numeral (isDigit digits decimal)

variable {n m : Nat} {ds rest : List Char}

/-- Nothing that continues a number stands at the front. -/
def Ends (cs : List Char) : Prop :=
  ∀ c ∈ cs.head?, isDigit c = false ∧ c ≠ '.' ∧ c ≠ 'e' ∧ c ≠ 'E'

theorem ends_nil : Ends [] := by
  simp [Ends]

theorem ends_cons {c : Char} (h : c = ',' ∨ c = ']' ∨ c = '\x7d') : Ends (c :: rest) := by
  intro b hb
  obtain rfl : c = b := by simpa using hb
  rcases h with rfl | rfl | rfl <;> decide

theorem Ends.digits (h : Ends rest) : Teller.Numeral.Ends rest :=
  fun c hc => (h c hc).1

/-! ### Reading -/

theorem digits1_append (hne : ds ≠ []) (hds : ∀ c ∈ ds, isDigit c)
    (h : Teller.Numeral.Ends rest) : digits1 (ds ++ rest) = some (ds, rest) := by
  have htake : rest.takeWhile isDigit = [] := by
    cases rest with
    | nil => rfl
    | cons c rest => exact List.takeWhile_cons_of_neg (by simp [h c rfl])
  have hdrop : rest.dropWhile isDigit = rest := by
    cases rest with
    | nil => rfl
    | cons c rest => exact List.dropWhile_cons_of_neg (by simp [h c rfl])
  simp only [digits1, List.takeWhile_append_of_pos hds, List.dropWhile_append_of_pos hds, htake,
    hdrop, List.append_nil, if_neg hne]

theorem isDigit_of_mem_digits : ∀ c ∈ digits 10 n, isDigit c := fun _ hc =>
  Teller.Numeral.isDigit_of_ofDigitsFrom?
    (Teller.Numeral.ofDigitsFrom?_digits (by omega) (by omega) n) hc

theorem exists_digits (n : Nat) :
    ∃ c ds, digits 10 n = c :: ds ∧ isDigit c ∧ (c = '0' → n = 0) := by
  obtain ⟨d, ds, hds, hd, hzero⟩ := Teller.Numeral.exists_digitsOnto (r := 10) (by omega)
    (by omega) n []
  refine ⟨_, ds, hds, isDigit_of_mem_digits _ (hds ▸ List.mem_cons_self), fun h => hzero ?_⟩
  exact Teller.Numeral.eq_zero_of_digitChar (by omega) h

/-- The digits of a number start with a zero only if they are this zero. -/
theorem readWhole_digits (h : Teller.Numeral.Ends rest) :
    readWhole (digits 10 n ++ rest) = some (digits 10 n, rest) := by
  obtain ⟨c, ds, hds, hc, hzero⟩ := exists_digits n
  by_cases hc0 : c = '0'
  · obtain rfl := hzero hc0
    rw [Teller.Numeral.digits_zero (by omega), List.singleton_append, readWhole.eq_def]
    cases rest with
    | nil => rfl
    | cons b rest => simp [h b rfl]
  · have hread : digits1 (digits 10 n ++ rest) = some (digits 10 n, rest) :=
      digits1_append (by simp [hds]) isDigit_of_mem_digits h
    rw [hds] at hread ⊢
    rw [List.cons_append] at hread ⊢
    rw [readWhole.eq_def]
    split
    · rename_i heq
      cases heq
      exact absurd rfl hc0
    · exact hread

theorem readFraction_of_ends (h : Ends rest) : readFraction rest = some ([], rest) := by
  unfold readFraction
  split
  · exact absurd rfl (h '.' rfl).2.1
  · rfl

theorem readExponent_of_ends (h : Ends rest) : readExponent rest = some (none, rest) := by
  unfold readExponent
  split
  · have hc := h _ rfl
    rw [if_neg (by simp [hc.2.2.1, hc.2.2.2])]
  · rfl

/-- The digits of a whole number, after a minus if it is negative. -/
def ofInt (x : Int) : Numeral :=
  ⟨decide (x < 0), digits 10 x.natAbs, [], none⟩

theorem read_decimal {x : Int} (h : Ends rest) :
    read (decimal x ++ rest) = some (ofInt x, rest) := by
  unfold decimal ofInt read
  split
  rename_i negative left hsign
  obtain ⟨rfl, rfl⟩ : negative = decide (x < 0) ∧ left = digits 10 x.natAbs ++ rest := by
    obtain ⟨c, ds, hds, hc, -⟩ := exists_digits x.natAbs
    split at hsign
    · rename_i heq
      split_ifs at heq with hneg
      · cases heq
        cases hsign
        exact ⟨by simp [hneg], rfl⟩
      · rw [hds] at heq
        cases heq
        exact absurd hc (by decide)
    · rename_i hminus
      split_ifs at hsign hminus with hneg
      · exact absurd rfl (hminus _)
      · cases hsign
        exact ⟨by simp [hneg], rfl⟩
  simp [readWhole_digits h.digits, readFraction_of_ends h, readExponent_of_ends h]

/-! ### Value -/

/-- Digits are absorbed whole if 64 bits hold what they write. -/
theorem absorb_of_lt (h : Teller.Numeral.ofDigitsFrom? 10 n ds = some m)
    (hm : m < Nat.pow 2 64) : absorb n ds = (m, []) := by
  induction ds generalizing n with
  | nil => exact Option.some.inj h ▸ rfl
  | cons c ds ih =>
    obtain ⟨d, hd, hds⟩ := Teller.Numeral.ofDigitsFrom?_cons_eq_some.1 h
    have hle := Teller.Numeral.le_of_ofDigitsFrom? (by omega) hds
    rw [absorb, hd, Option.getD_some]
    rw [if_pos (Nat.lt_of_le_of_lt hle hm)]
    exact ih hds

theorem value?_ofInt {x : Int} (hleast : -9223372036854775808 ≤ x)
    (hgreatest : x < 18446744073709551616) : (ofInt x).value? = some (.int x) := by
  have habsorb := absorb_of_lt (n := 0)
    (Teller.Numeral.ofDigitsFrom?_digits (r := 10) (by omega) (by omega) x.natAbs)
    (show x.natAbs < 18446744073709551616 by omega)
  have hsmall : ¬ (decide (x < 0) = true ∧ (x.natAbs = 0 ∨ Nat.pow 2 63 < x.natAbs)) := by
    rw [decide_eq_true_iff, show Nat.pow 2 63 = 9223372036854775808 from rfl]
    omega
  simp only [value?, ofInt, habsorb]
  rw [if_pos ⟨trivial, trivial, trivial, hsmall⟩]
  by_cases hneg : x < 0
  · simp only [hneg, decide_true, if_true]
    rw [show -(x.natAbs : Int) = x by omega]
  · simp only [hneg, decide_false, Bool.false_eq_true, if_false]
    rw [show (x.natAbs : Int) = x by omega]

end Numeral

end Teller.Json

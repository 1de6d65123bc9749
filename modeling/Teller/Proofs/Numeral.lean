import Teller.Numeral
import Mathlib.Tactic.SplitIfs

/-!
# Numerals read back

`ofDigits?_digits`: the digits of a number write this number, in every radix from two to sixteen.
Zeros in front do not count, and a number below a power of the radix fits in as many places.
-/

namespace Teller.Numeral

variable {r value n d w : Nat} {c : Char} {ds tail : List Char}

/-! ### One digit -/

theorem toNat_digitChar (h : d < 16) :
    (digitChar d).toNat = if d < 10 then 0x30 + d else 0x57 + d := by
  revert d
  decide

theorem eq_zero_of_digitChar (h : d < 16) (hc : digitChar d = '0') : d = 0 := by
  revert d
  decide

theorem digitValue?_digitChar (hr : r ≤ 16) (h : d < r) :
    digitValue? r (digitChar d) = some d := by
  have hc := toNat_digitChar (Nat.lt_of_lt_of_le h hr)
  unfold digitValue?
  by_cases hd : d < 10
  · rw [if_pos hd] at hc
    rw [hc]
    simp only [show 0x30 ≤ 0x30 + d ∧ 0x30 + d ≤ 0x39 by omega, and_self, if_true,
      Nat.add_sub_cancel_left, h]
  · rw [if_neg hd] at hc
    rw [hc]
    simp only [show ¬ 0x57 + d ≤ 0x39 by omega, show 0x61 ≤ 0x57 + d ∧ 0x57 + d ≤ 0x66 by omega,
      and_false, and_self, if_true, if_false, Nat.add_sub_cancel_left, h]

theorem lt_of_digitValue? (h : digitValue? r c = some d) : d < r := by
  simp only [digitValue?, Option.ite_none_right_eq_some, Option.some.injEq] at h
  exact h.2 ▸ h.1

theorem isDigit_iff : isDigit c ↔ 0x30 ≤ c.toNat ∧ c.toNat ≤ 0x39 := by
  simp only [isDigit, digitValue?, Option.isSome_ite]
  split_ifs <;> omega

/-- No digit stands at the front. -/
def Ends (cs : List Char) : Prop :=
  ∀ c ∈ cs.head?, isDigit c = false

theorem ends_cons (h : isDigit c = false) : Ends (c :: tail) := by
  simpa [Ends] using h

/-! ### What digits write -/

theorem ofDigitsFrom?_cons (h : digitValue? r c = some d) :
    ofDigitsFrom? r value (c :: ds) = ofDigitsFrom? r (value * r + d) ds := by
  simp [ofDigitsFrom?, h]

theorem ofDigitsFrom?_cons_eq_some :
    ofDigitsFrom? r value (c :: ds) = some n ↔
      ∃ d, digitValue? r c = some d ∧
        ofDigitsFrom? r (value * r + d) ds = some n := by
  simp [ofDigitsFrom?, Option.bind_eq_some_iff]

/-- More digits write a greater number. -/
theorem le_of_ofDigitsFrom? (hr : 0 < r) (h : ofDigitsFrom? r value ds = some n) :
    value ≤ n := by
  induction ds generalizing value with
  | nil => exact Nat.le_of_eq (Option.some.inj h)
  | cons c ds ih =>
    obtain ⟨d, -, hds⟩ := ofDigitsFrom?_cons_eq_some.1 h
    calc value ≤ value * r := Nat.le_mul_of_pos_right value hr
      _ ≤ value * r + d := Nat.le_add_right _ _
      _ ≤ n := ih hds

/-- What writes a number is made of digits. -/
theorem isSome_of_ofDigitsFrom? (h : ofDigitsFrom? r value ds = some n) (hc : c ∈ ds) :
    (digitValue? r c).isSome := by
  induction ds generalizing value with
  | nil => cases hc
  | cons b ds ih =>
    obtain ⟨d, hd, hds⟩ := ofDigitsFrom?_cons_eq_some.1 h
    rcases List.mem_cons.1 hc with rfl | hc
    · simp [hd]
    · exact ih hds hc

theorem isDigit_of_ofDigitsFrom? (h : ofDigitsFrom? 10 value ds = some n) (hc : c ∈ ds) :
    isDigit c :=
  isSome_of_ofDigitsFrom? h hc

/-- Zeros in front do not count. -/
theorem ofDigitsFrom?_replicate_zero (hr : 0 < r) (k : Nat) :
    ofDigitsFrom? r 0 (List.replicate k '0' ++ ds) = ofDigitsFrom? r 0 ds := by
  induction k with
  | zero => rfl
  | succ k ih =>
    have hzero : digitValue? r '0' = some 0 := by simp [digitValue?, hr]
    rw [List.replicate_succ, List.cons_append, ofDigitsFrom?_cons hzero, Nat.zero_mul]
    exact ih

/-! ### Places -/

theorem length_digitsOnto_le (hw : 0 < w) (h : n < Nat.pow r w) :
    (digitsOnto r n tail).length ≤ w + tail.length := by
  fun_induction digitsOnto r n tail generalizing w with
  | case1 n tail _ =>
    rw [List.length_cons]
    omega
  | case2 n tail hn ih =>
    match w, hw, h with
    | 1, _, h => exact absurd (show n < r by simpa using h) (by omega)
    | w + 2, _, h =>
      have := ih (w := w + 1) (by omega) (Nat.div_lt_of_lt_mul (by
        rw [Nat.mul_comm]
        exact h))
      rw [List.length_cons] at this
      omega

theorem length_paddedIn (hw : 0 < w) (h : n < Nat.pow r w) :
    (paddedIn r w n).length = w := by
  have hle : (digits r n).length ≤ w := length_digitsOnto_le hw h
  rw [paddedIn, List.length_append, List.length_replicate]
  omega

/-! ### The digits of a number -/

theorem digits_zero (hr : 0 < r) : digits r 0 = ['0'] := by
  rw [digits, digitsOnto, dif_pos (.inr hr)]
  rfl

section

variable (h2 : 2 ≤ r) (h16 : r ≤ 16)

include h2 h16

theorem ofDigitsFrom?_digitsOnto (n : Nat) (tail : List Char) :
    ofDigitsFrom? r 0 (digitsOnto r n tail) = ofDigitsFrom? r n tail := by
  fun_induction digitsOnto r n tail with
  | case1 n tail h =>
    rw [ofDigitsFrom?_cons (digitValue?_digitChar h16 (by omega)), Nat.zero_mul, Nat.zero_add]
  | case2 n tail h ih =>
    have hmod : n % r < r := Nat.mod_lt _ (by omega)
    rw [ih, ofDigitsFrom?_cons (digitValue?_digitChar h16 hmod), Nat.div_add_mod']

theorem ofDigitsFrom?_digits (n : Nat) : ofDigitsFrom? r 0 (digits r n) = some n :=
  ofDigitsFrom?_digitsOnto h2 h16 n []

/-- The first digit, which is zero for zero only. -/
theorem exists_digitsOnto (n : Nat) (tail : List Char) :
    ∃ d ds, digitsOnto r n tail = digitChar d :: ds ∧ d < r ∧ (d = 0 → n = 0) := by
  fun_induction digitsOnto r n tail with
  | case1 n tail h => exact ⟨n, tail, rfl, by omega, id⟩
  | case2 n tail h ih =>
    obtain ⟨d, ds, hds, hd, hzero⟩ := ih
    refine ⟨d, ds, hds, hd, fun h0 => ?_⟩
    rcases Nat.div_eq_zero_iff.1 (hzero h0) with h | h <;> omega

theorem ofDigits?_digits (n : Nat) : ofDigits? r (digits r n) = some n := by
  obtain ⟨d, ds, hds, -⟩ := exists_digitsOnto h2 h16 n []
  have h := ofDigitsFrom?_digits h2 h16 n
  rw [digits, hds] at h ⊢
  exact h

theorem paddedIn_ne_nil (w n : Nat) : paddedIn r w n ≠ [] := by
  obtain ⟨d, ds, hds, -⟩ := exists_digitsOnto h2 h16 n []
  simp [paddedIn, digits, hds]

theorem ofDigitsFrom?_paddedIn (w n : Nat) :
    ofDigitsFrom? r 0 (paddedIn r w n) = some n := by
  rw [paddedIn, ofDigitsFrom?_replicate_zero (by omega), ofDigitsFrom?_digits h2 h16]

end

end Teller.Numeral

import Teller.Holder
import Mathlib.Algebra.Order.Ring.Int

/-!
# Offsets of pages

The offset of a page is its number, lowered by one, times its size. Both steps may leave the range of amounts:
`Page.numbered` clamps after each of them, `Page.numbered?` refuses at each. For a page that has rows, this is the
exact product clamped once, or refused once, since a factor beyond an end takes the product beyond an end as well.
-/

namespace Teller

namespace Amount

variable {x k : Int}

theorem clamp_eq_max_min (x : Int) : clamp x = max least (min greatest x) := by
  unfold clamp least greatest
  split
  · omega
  · split <;> omega

theorem clamp_of_le_least (h : x ≤ least) : clamp x = least := by
  rw [clamp_eq_max_min, max_eq_left ((min_le_right _ _).trans h)]

theorem clamp_of_greatest_le (h : greatest ≤ x) : clamp x = greatest := by
  rw [clamp_eq_max_min, min_eq_left h]
  decide

/-! ### Products with a factor beyond an end -/

theorem mul_le_least (hx : x ≤ least) (hk : 0 < k) : x * k ≤ least :=
  (mul_le_of_one_le_right (hx.trans (by decide)) hk).trans hx

theorem greatest_le_mul (hx : greatest ≤ x) (hk : 0 < k) : greatest ≤ x * k :=
  hx.trans (le_mul_of_one_le_right (le_trans (by decide) hx) hk)

/-- The range reaches further down than up. -/
theorem greatest_lt_mul (hx : x ≤ least) (hk : k < 0) : greatest < x * k :=
  calc greatest
    _ < -least := by decide
    _ ≤ -x := Int.neg_le_neg hx
    _ ≤ -x * -k := le_mul_of_one_le_right (Int.neg_nonneg_of_nonpos (hx.trans (by decide))) (Int.neg_pos_of_neg hk)
    _ = x * k := neg_mul_neg x k

/-- A product that is clamped may as well be one with a clamped factor. Only a factor beyond the upper end whose sign
is changed may miss the lower end by one. -/
theorem clamp_clamp_mul (h : x ≤ greatest ∨ 0 ≤ k) : clamp (clamp x * k) = clamp (x * k) := by
  by_cases hfits : Fits x
  · rw [clamp_of_fits hfits]
  have hbeyond : x ≤ least ∨ greatest ≤ x := by
    unfold Fits at hfits
    omega
  rcases lt_trichotomy k 0 with hk | rfl | hk
  · -- the sign changes, so the factor is beyond the lower end
    have hx : x ≤ least := by
      unfold Fits at hfits
      omega
    rw [clamp_of_le_least hx, clamp_of_greatest_le (greatest_lt_mul le_rfl hk).le,
      clamp_of_greatest_le (greatest_lt_mul hx hk).le]
  · rw [mul_zero, mul_zero]
  · rcases hbeyond with hx | hx
    · rw [clamp_of_le_least hx, clamp_of_le_least (mul_le_least le_rfl hk), clamp_of_le_least (mul_le_least hx hk)]
    · rw [clamp_of_greatest_le hx, clamp_of_greatest_le (greatest_le_mul le_rfl hk),
        clamp_of_greatest_le (greatest_le_mul hx hk)]

theorem fits_of_fits_mul (hx : x ≤ greatest) (hk : k ≠ 0) (h : Fits (x * k)) : Fits x := by
  refine ⟨not_lt.1 fun hlt => ?_, hx⟩
  rcases lt_or_gt_of_ne hk with hk | hk
  · exact not_lt.2 h.2 (greatest_lt_mul hlt.le hk)
  · have hle : x * k ≤ x := mul_le_of_one_le_right (hlt.le.trans (by decide)) hk
    exact not_lt.2 h.1 (hle.trans_lt hlt)

end Amount

namespace Page

variable {number size : Int} {p : Page}

theorem numbered_eq (h : number - 1 ≤ Amount.greatest ∨ 0 ≤ size) :
    numbered number size = ⟨size, Amount.clamp ((number - 1) * size)⟩ := by
  rw [numbered, Amount.clamp_clamp_mul h]

theorem numbered?_eq_some_iff : numbered? number size = some p ↔
    (Amount.Fits (number - 1) ∧ Amount.Fits ((number - 1) * size)) ∧ p = ⟨size, (number - 1) * size⟩ := by
  have hiff : numbered? number size = some p ↔ ∃ before, Amount.fit? (number - 1) = some before ∧
      ∃ offset, Amount.fit? (before * size) = some offset ∧ some ⟨size, offset⟩ = some p := by
    simp only [numbered?, Option.bind_eq_bind, Option.bind_eq_some_iff]
    rfl
  rw [hiff]
  simp only [Amount.fit?_eq_some_iff]
  constructor
  · rintro ⟨_, ⟨rfl, hbefore⟩, _, ⟨rfl, hoffset⟩, ⟨⟩⟩
    exact ⟨⟨hbefore, hoffset⟩, rfl⟩
  · rintro ⟨⟨hbefore, hoffset⟩, rfl⟩
    exact ⟨_, ⟨rfl, hbefore⟩, _, ⟨rfl, hoffset⟩, rfl⟩

theorem isSome_numbered?_iff : (numbered? number size).isSome ↔
    Amount.Fits (number - 1) ∧ Amount.Fits ((number - 1) * size) := by
  simp only [Option.isSome_iff_exists, numbered?_eq_some_iff, exists_and_left, exists_eq, and_true]

/-- A page that is not refused is not clamped either. -/
theorem numbered_of_numbered? (h : numbered? number size = some p) : numbered number size = p := by
  obtain ⟨⟨hbefore, hoffset⟩, rfl⟩ := numbered?_eq_some_iff.1 h
  rw [numbered, Amount.clamp_of_fits hbefore, Amount.clamp_of_fits hoffset]

end Page

namespace Holder

variable {number size : Int} {p : Page}

theorem page_eq_ok_iff : page number size = .ok p ↔
    (1 ≤ number ∧ leastPageSize ≤ size ∧ size ≤ greatestPageSize) ∧
      (Amount.Fits (number - 1) ∧ Amount.Fits ((number - 1) * size)) ∧ p = ⟨size, (number - 1) * size⟩ := by
  rw [← Page.numbered?_eq_some_iff]
  unfold page
  dsimp only
  split
  · rename_i hinvalid
    refine ⟨by rintro ⟨⟩, fun h => ?_⟩
    omega
  · rename_i hvalid
    have hbounds : 1 ≤ number ∧ leastPageSize ≤ size ∧ size ≤ greatestPageSize := by omega
    cases Page.numbered? number size <;> simp [hbounds]

end Holder

/-- The offset of a page is the exact product, clamped to the range. A page is refused exactly if the product is out
of the range, unless it holds no rows at all, and else it is the clamped one. Holders get pages of five to ten rows
from the first one on, as long as the product is an amount, and never a clamped offset. -/
theorem Page.offset_exact_or_clamped (number size : Int) (hnumber : Amount.Fits number) :
    Page.numbered number size = ⟨size, max Amount.least (min Amount.greatest ((number - 1) * size))⟩ ∧
    (size ≠ 0 → ((Page.numbered? number size).isSome ↔ Amount.Fits ((number - 1) * size))) ∧
    (∀ p, Page.numbered? number size = some p →
      p = Page.numbered number size ∧ p.offset = (number - 1) * size) ∧
    ((∃ p, Holder.page number size = .ok p) ↔
      1 ≤ number ∧ 5 ≤ size ∧ size ≤ 10 ∧ Amount.Fits ((number - 1) * size)) ∧
    (∀ p, Holder.page number size = .ok p → p = ⟨size, (number - 1) * size⟩ ∧ 0 ≤ p.offset) := by
  have hbefore : number - 1 ≤ Amount.greatest := by
    have := hnumber.2
    omega
  refine ⟨?_, fun hsize => ?_, fun p hp => ?_, ?_, fun p hp => ?_⟩
  · rw [Page.numbered_eq (.inl hbefore), Amount.clamp_eq_max_min]
  · rw [Page.isSome_numbered?_iff]
    exact and_iff_right_of_imp (Amount.fits_of_fits_mul hbefore hsize)
  · refine ⟨(Page.numbered_of_numbered? hp).symm, ?_⟩
    obtain ⟨-, rfl⟩ := Page.numbered?_eq_some_iff.1 hp
    rfl
  · constructor
    · rintro ⟨p, hp⟩
      obtain ⟨⟨hfirst, hleast, hgreatest⟩, ⟨-, hoffset⟩, -⟩ := Holder.page_eq_ok_iff.1 hp
      exact ⟨hfirst, hleast, hgreatest, hoffset⟩
    · rintro ⟨hfirst, hleast, hgreatest, hoffset⟩
      have hfits := Amount.fits_of_fits_mul hbefore (by omega) hoffset
      exact ⟨_, Holder.page_eq_ok_iff.2 ⟨⟨hfirst, hleast, hgreatest⟩, ⟨hfits, hoffset⟩, rfl⟩⟩
  · obtain ⟨⟨hfirst, hleast, -⟩, -, rfl⟩ := Holder.page_eq_ok_iff.1 hp
    unfold Holder.leastPageSize at hleast
    exact ⟨rfl, Int.mul_nonneg (by omega) (by omega)⟩

/-- The last page of ten rows that is not refused, and a page whose number passes the lower end when it is lowered,
so that its offset passes the upper one. -/
theorem Page.offsets_at_the_ends :
    (Amount.Fits 922337203685477581 ∧
      Page.numbered? 922337203685477581 10 = some ⟨10, 9223372036854775800⟩ ∧
      Holder.page 922337203685477581 10 = .ok ⟨10, 9223372036854775800⟩) ∧
    (Amount.Fits Amount.least ∧
      Page.numbered Amount.least (-1) = ⟨-1, Amount.greatest⟩ ∧
      ¬ (Page.numbered? Amount.least (-1)).isSome) := by
  have hlast : Amount.Fits 922337203685477581 := by decide
  have hleast : Amount.Fits Amount.least := by decide
  obtain ⟨hclamped, hfits, hsome, hok, hpage⟩ := Page.offset_exact_or_clamped _ 10 hlast
  obtain ⟨hclamped', hfits', -⟩ := Page.offset_exact_or_clamped _ (-1) hleast
  refine ⟨⟨hlast, ?_, ?_⟩, hleast, hclamped'.trans (by decide), ?_⟩
  · obtain ⟨p, hp⟩ := Option.isSome_iff_exists.1 ((hfits (by decide)).2 (by decide))
    rw [hp, (hsome p hp).1, hclamped]
    decide
  · obtain ⟨p, hp⟩ := hok.2 (by decide)
    rw [hp, (hpage p hp).1]
    decide
  · rw [hfits' (by decide)]
    decide

end Teller

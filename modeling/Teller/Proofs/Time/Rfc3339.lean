import Teller.Proofs.Except
import Teller.Proofs.Numeral
import Teller.Time.Rfc3339
import Mathlib.Tactic.SplitIfs

/-!
# RFC 3339 reads back

`valid_of_read`: what is read from a text is an instant of the calendar, whatever the offset.
`read_write`: the canonical text of an instant is read as this instant; a leap second keeps its
fraction, and a year of more than four digits its sign.
-/

namespace Teller.Time

/-! ### Instants behind a clock -/

theorem Day.valid_of_next? {d e : Day} (h : d.next? = some e) : e.Valid := by
  simp only [Day.next?, Option.ite_none_right_eq_some, Option.some.injEq] at h
  exact h.2 ▸ h.1

theorem Day.valid_of_previous? {d e : Day} (h : d.previous? = some e) : e.Valid := by
  simp only [Day.previous?, Option.ite_none_right_eq_some, Option.some.injEq] at h
  exact h.2 ▸ h.1

theorem Day.Valid.day_le {d : Day} (h : d.Valid) : d.day ≤ 31 := by
  refine Nat.le_trans h.2.2.2.2.2 ?_
  unfold Day.monthLength
  split_ifs <;> omega

namespace Instant

variable {t u : Instant} {offset : Int}

/-- An offset of whole minutes keeps a leap second at the end of its minute. -/
theorem Valid.of_behind? (ht : t.Valid) (hminutes : offset % 60 = 0)
    (hleast : -86400 < offset) (hgreatest : offset < 86400) (h : t.behind? offset = some u) :
    u.Valid := by
  obtain ⟨hdate, hsecond, hnano, hleap⟩ := ht
  dsimp only [behind?] at h
  split_ifs at h
  · obtain ⟨d, hd, hu⟩ := Option.bind_eq_some_iff.1 h
    obtain rfl := Option.some.inj hu
    refine ⟨Day.valid_of_previous? hd, ?_, hnano, fun h => ?_⟩ <;> dsimp only at * <;> omega
  · obtain ⟨d, hd, hu⟩ := Option.bind_eq_some_iff.1 h
    obtain rfl := Option.some.inj hu
    refine ⟨Day.valid_of_next? hd, ?_, hnano, fun h => ?_⟩ <;> dsimp only at * <;> omega
  · obtain rfl := Option.some.inj h
    refine ⟨hdate, ?_, hnano, fun h => ?_⟩ <;> dsimp only at * <;> omega

/-- A clock without offset shows the instant itself. -/
theorem behind?_zero (ht : t.Valid) : t.behind? 0 = some t := by
  have := ht.2.1
  dsimp only [behind?]
  rw [if_neg (by omega), if_neg (by omega)]
  simp

end Instant

namespace Rfc3339

variable {cs rest : List Char} {n count value lo hi : Nat}

/-! ### What is read is in its bounds -/

/-- Every digit that is read makes the number up to ten times as great. -/
theorem lt_of_readDigits (h : readDigits count value cs = .ok (n, rest)) :
    ∃ k ≤ count, cs.length = rest.length + k ∧ n < (value + 1) * Nat.pow 10 k := by
  have hstart : ∀ v, v < (v + 1) * Nat.pow 10 0 := fun v => by
    show v < (v + 1) * 1
    omega
  fun_induction readDigits count value cs with
  | case1 value cs =>
    cases h
    exact ⟨0, Nat.le_refl 0, rfl, hstart _⟩
  | case2 value count =>
    cases h
    exact ⟨0, Nat.zero_le _, rfl, hstart _⟩
  | case3 value count c cs =>
    cases h
    exact ⟨0, Nat.zero_le _, rfl, hstart _⟩
  | case4 => cases h
  | case5 count value c cs d hd hfit ih =>
    obtain ⟨k, hk, hlength, hn⟩ := ih h
    refine ⟨k + 1, by omega, by rw [List.length_cons]; omega, Nat.lt_of_lt_of_le hn ?_⟩
    have hten : d < 10 := Numeral.lt_of_digitValue? hd
    calc (value * 10 + d + 1) * Nat.pow 10 k ≤ ((value + 1) * 10) * Nat.pow 10 k :=
          Nat.mul_le_mul_right _ (by omega)
      _ = (value + 1) * (Nat.pow 10 k * 10) := by rw [Nat.mul_assoc, Nat.mul_comm 10]
      _ = (value + 1) * Nat.pow 10 (k + 1) := rfl

theorem lt_of_readNumber (h : readNumber count cs = .ok (n, rest)) :
    ∃ k ≤ count, cs.length = rest.length + k ∧ n < Nat.pow 10 k := by
  unfold readNumber at h
  split at h
  · cases h
  · split at h
    · simpa using lt_of_readDigits h
    · cases h

theorem bounds_of_readPart (h : readPart lo hi cs = .ok (n, rest)) : lo ≤ n ∧ n ≤ hi := by
  obtain ⟨⟨m, _⟩, -, h⟩ := bind_eq_ok_iff.1 h
  simp only at h
  split at h
  · cases h
  · cases h
    omega

theorem lt_of_readFraction (h : readFraction cs = .ok (n, rest)) : n < 1000000000 := by
  unfold readFraction at h
  split at h
  · obtain ⟨⟨m, left⟩, hm, h⟩ := bind_eq_ok_iff.1 h
    cases h
    obtain ⟨k, hk, hlength, hlt⟩ := lt_of_readNumber hm
    rw [show (List.length _ - left.length) = k by omega]
    calc m * Nat.pow 10 (9 - k) < Nat.pow 10 k * Nat.pow 10 (9 - k) :=
          Nat.mul_lt_mul_of_pos_right hlt (Nat.pow_pos (by omega))
      _ = Nat.pow 10 (k + (9 - k)) := (Nat.pow_add 10 k (9 - k)).symm
      _ = Nat.pow 10 9 := congrArg (Nat.pow 10) (Nat.add_sub_cancel' hk)
      _ = 1000000000 := rfl
  · cases h
    omega

/-- Offsets are whole minutes. -/
theorem minutes_of_readOffsetSize (h : readOffsetSize cs = .ok (n, rest)) : n % 60 = 0 := by
  obtain ⟨⟨⟨h1, h2⟩, _⟩, -, h⟩ := bind_eq_ok_iff.1 h
  obtain ⟨⟨⟨m1, m2⟩, _⟩, -, h⟩ := bind_eq_ok_iff.1 h
  simp only at h
  split at h
  · cases h
  · cases h
    omega

theorem minutes_of_readOffset {offset : Int} (h : readOffset cs = .ok (offset, rest)) :
    offset % 60 = 0 := by
  cases cs with
  | nil => cases h
  | cons sign cs =>
    dsimp only [readOffset] at h
    split_ifs at h
    · cases h
      rfl
    · cases h
      rfl
    all_goals
      obtain ⟨⟨n, _⟩, hn, h⟩ := bind_eq_ok_iff.1 h
      have := minutes_of_readOffsetSize hn
      cases h
      omega

theorem valid_of_resolve {day : Day} {hour minute second nano : Nat} {offset : Int} {t : Instant}
    (hhour : hour ≤ 23) (hminute : minute ≤ 59) (hsecond : second ≤ 60)
    (hnano : nano < 1000000000) (hoffset : offset % 60 = 0)
    (h : resolve day hour minute second nano offset = .ok t) : t.Valid := by
  unfold resolve at h
  split at h
  · cases h
  · rename_i hday
    simp only at h
    split at h
    · cases h
    · split at h
      · rename_i hu
        cases h
        refine Instant.Valid.of_behind? ⟨Classical.not_not.1 hday, ?_, ?_, ?_⟩ hoffset (by omega)
          (by omega) hu
        all_goals
          simp only
          split <;> omega
      · cases h

/-- What is read is an instant of the calendar. -/
theorem valid_of_read {t : Instant} (h : read cs = .ok t) : t.Valid := by
  unfold read at h
  obtain ⟨⟨year, _⟩, -, h⟩ := bind_eq_ok_iff.1 h
  obtain ⟨_, -, h⟩ := bind_eq_ok_iff.1 h
  obtain ⟨⟨month, _⟩, -, h⟩ := bind_eq_ok_iff.1 h
  obtain ⟨_, -, h⟩ := bind_eq_ok_iff.1 h
  obtain ⟨⟨day, _⟩, -, h⟩ := bind_eq_ok_iff.1 h
  obtain ⟨_, -, h⟩ := bind_eq_ok_iff.1 h
  obtain ⟨⟨hour, _⟩, hhour, h⟩ := bind_eq_ok_iff.1 h
  obtain ⟨_, -, h⟩ := bind_eq_ok_iff.1 h
  obtain ⟨⟨minute, _⟩, hminute, h⟩ := bind_eq_ok_iff.1 h
  obtain ⟨_, -, h⟩ := bind_eq_ok_iff.1 h
  obtain ⟨⟨second, _⟩, hsecond, h⟩ := bind_eq_ok_iff.1 h
  obtain ⟨⟨nano, _⟩, hnano, h⟩ := bind_eq_ok_iff.1 h
  obtain ⟨⟨offset, _⟩, hoffset, h⟩ := bind_eq_ok_iff.1 h
  simp only at h
  split at h
  · cases h
  · exact valid_of_resolve (bounds_of_readPart hhour).2 (bounds_of_readPart hminute).2
      (bounds_of_readPart hsecond).2 (lt_of_readFraction hnano) (minutes_of_readOffset hoffset) h

/-! ### What is written is read back -/

theorem trimLeft_cons {c : Char} (h : Text.isBlank c = false) :
    Text.trimLeft (c :: cs) = c :: cs := by
  simp [Text.trimLeft, h]

theorem not_blank_of_isDigit {c : Char} (h : Numeral.isDigit c) : Text.isBlank c = false := by
  have := Numeral.isDigit_iff.1 h
  simp only [Text.isBlank, Bool.or_eq_false_iff, Bool.and_eq_false_iff, decide_eq_false_iff_not,
    beq_eq_false_iff_ne]
  omega

/-- Digits are read up to the count, or to the first character that is none. -/
theorem readDigits_append {ds : List Char} (h : Numeral.ofDigitsFrom? 10 value ds = some n)
    (hn : n ≤ 9223372036854775807) (hcount : ds.length ≤ count)
    (hrest : ds.length = count ∨ Numeral.Ends rest) :
    readDigits count value (ds ++ rest) = .ok (n, rest) := by
  induction ds generalizing value count with
  | nil =>
    obtain rfl := Option.some.inj h
    cases count with
    | zero => rfl
    | succ count =>
      cases rest with
      | nil => rfl
      | cons c cs =>
        have hends := hrest.resolve_left (by simp)
        have hc : Numeral.digitValue? 10 c = none := by
          simpa [Numeral.isDigit] using hends c rfl
        simp [readDigits, hc]
  | cons c ds ih =>
    obtain ⟨d, hd, hds⟩ := Numeral.ofDigitsFrom?_cons_eq_some.1 h
    have hle := Numeral.le_of_ofDigitsFrom? (by omega) hds
    cases count with
    | zero => simp at hcount
    | succ count =>
      simp only [List.length_cons, Nat.add_right_cancel_iff, Nat.add_le_add_iff_right] at hcount hrest
      rw [List.cons_append, readDigits, hd]
      simp only
      rw [if_neg (by omega)]
      exact ih hds hcount hrest

section

variable {w : Nat}

/-- A number in places is made of digits, and there is a first one. -/
theorem exists_padded (w n : Nat) :
    ∃ c ds, Numeral.padded w n = c :: ds ∧ Numeral.isDigit c ∧
      Numeral.ofDigitsFrom? 10 0 (c :: ds) = some n := by
  have hvalue := Numeral.ofDigitsFrom?_paddedIn (r := 10) (by omega) (by omega) w n
  obtain ⟨c, ds, hds⟩ := List.exists_cons_of_ne_nil
    (Numeral.paddedIn_ne_nil (r := 10) (by omega) (by omega) w n)
  rw [hds] at hvalue
  exact ⟨c, ds, hds, Numeral.isDigit_of_ofDigitsFrom? hvalue List.mem_cons_self, hvalue⟩

theorem trimLeft_padded :
    Text.trimLeft (Numeral.padded w n ++ rest) = Numeral.padded w n ++ rest := by
  obtain ⟨c, ds, hds, hc, -⟩ := exists_padded w n
  rw [hds, List.cons_append, trimLeft_cons (not_blank_of_isDigit hc)]

theorem readNumber_padded (hfit : n ≤ 9223372036854775807)
    (hcount : (Numeral.padded w n).length ≤ count)
    (hrest : (Numeral.padded w n).length = count ∨ Numeral.Ends rest) :
    readNumber count (Numeral.padded w n ++ rest) = .ok (n, rest) := by
  obtain ⟨c, ds, hds, hc, hvalue⟩ := exists_padded w n
  rw [hds] at hcount hrest ⊢
  rw [List.cons_append, readNumber, if_pos hc, ← List.cons_append]
  exact readDigits_append hvalue hfit hcount hrest

/-- A number that fills its places is read up to the last of them, whatever follows. -/
theorem readNumber_places (hw : 0 < w) (hn : n < Nat.pow 10 w) (hfit : n ≤ 9223372036854775807) :
    readNumber w (Numeral.padded w n ++ rest) = .ok (n, rest) :=
  have hlength := Numeral.length_paddedIn hw hn
  readNumber_padded hfit (Nat.le_of_eq hlength) (.inl hlength)

/-- After a sign, the year is read up to the first character that is no digit. -/
theorem readNumber_signed (hfit : n ≤ 9223372036854775807) (hrest : Numeral.Ends rest) :
    readNumber (Numeral.padded w n ++ rest).length (Numeral.padded w n ++ rest) = .ok (n, rest) :=
  readNumber_padded hfit (by simp) (.inr hrest)

theorem readPart_padded (hlo : lo ≤ n) (hhi : n ≤ hi) (hn : n < 100) :
    readPart lo hi (Numeral.padded 2 n ++ rest) = .ok (n, rest) := by
  rw [readPart, trimLeft_padded, readNumber_places (by omega) hn (by omega), ok_bind]
  simp only
  rw [if_neg (by omega)]

end

theorem readMark_self {mark : Char} (h : Text.isBlank mark = false) :
    readMark mark (mark :: rest) = .ok rest := by
  simp [readMark, trimLeft_cons h]

/-! ### The parts of a text -/

theorem year_eq_ok {y : Int} (hleast : Day.firstYear ≤ y) (hgreatest : y ≤ Day.lastYear) :
    readYear.year y rest = .ok (y, rest) := by
  unfold Day.firstYear at hleast
  unfold Day.lastYear at hgreatest
  rw [readYear.year, if_neg (by omega)]

theorem readYear_minus (hfit : n ≤ 9223372036854775807) (hrest : Numeral.Ends rest) :
    readYear ('-' :: (Numeral.padded 4 n ++ rest)) = readYear.year (-n) rest := by
  rw [readYear, trimLeft_cons (by decide)]
  simp only
  rw [readNumber_signed hfit hrest, ok_bind]

theorem readYear_plus (hfit : n ≤ 9223372036854775807) (hrest : Numeral.Ends rest) :
    readYear ('+' :: (Numeral.padded 4 n ++ rest)) = readYear.year n rest := by
  rw [readYear, trimLeft_cons (by decide)]
  simp only
  rw [readNumber_signed hfit hrest, ok_bind]

theorem readYear_places (hn : n < 10000) :
    readYear (Numeral.padded 4 n ++ rest) = readYear.year n rest := by
  have hread : readNumber 4 (Numeral.padded 4 n ++ rest) = .ok (n, rest) :=
    readNumber_places (by omega) hn (by omega)
  obtain ⟨c, ds, hds, hc, -⟩ := exists_padded 4 n
  rw [readYear, trimLeft_padded, hds]
  split
  · rename_i heq
    cases heq
    exact absurd hc (by decide)
  · rename_i heq
    cases heq
    exact absurd hc (by decide)
  · rw [← hds, hread, ok_bind]

theorem readYear_writeYear {y : Int} (hleast : Day.firstYear ≤ y) (hgreatest : y ≤ Day.lastYear)
    (hrest : Numeral.Ends rest) : readYear (writeYear y ++ rest) = .ok (y, rest) := by
  have hyear : readYear.year y rest = .ok (y, rest) := year_eq_ok hleast hgreatest
  unfold Day.firstYear at hleast
  unfold Day.lastYear at hgreatest
  unfold writeYear
  split_ifs with hneg hlong
  · rwa [List.cons_append, readYear_minus (by omega) hrest, show -(y.natAbs : Int) = y by omega]
  · rwa [List.cons_append, readYear_plus (by omega) hrest, show (y.natAbs : Int) = y by omega]
  · rwa [readYear_places (by omega), show (y.natAbs : Int) = y by omega]

theorem ends_z : Numeral.Ends ('Z' :: rest) :=
  Numeral.ends_cons (by decide)

/-- A fraction of some digits is counted in units of its last one. -/
theorem readFraction_padded {w : Nat} (hw : 0 < w) (hle : w ≤ 9) (hn : n < Nat.pow 10 w) :
    readFraction ('.' :: Numeral.padded w n ++ 'Z' :: rest) =
      .ok (n * Nat.pow 10 (9 - w), 'Z' :: rest) := by
  have hfit : n ≤ 9223372036854775807 := Nat.le_trans (Nat.le_of_lt hn)
    (Nat.le_trans (Nat.pow_le_pow_right (by omega) hle) (by decide))
  have hlength : (Numeral.padded w n).length = w := Numeral.length_paddedIn hw hn
  rw [List.cons_append, readFraction, readNumber_padded hfit (by omega) (.inr ends_z), ok_bind]
  simp only [List.length_append, Nat.add_sub_cancel_right, hlength]
  rfl

theorem readFraction_writeFraction (hn : n < 1000000000) :
    readFraction (writeFraction n ++ 'Z' :: rest) = .ok (n, 'Z' :: rest) := by
  unfold writeFraction
  split_ifs with hzero hmilli hmicro
  · rw [hzero]
    rfl
  · rw [readFraction_padded (by omega) (by omega) (show n / 1000000 < 1000 by omega)]
    rw [show n / 1000000 * Nat.pow 10 (9 - 3) = n by show _ * 1000000 = n; omega]
  · rw [readFraction_padded (by omega) (by omega) (show n / 1000 < 1000000 by omega)]
    rw [show n / 1000 * Nat.pow 10 (9 - 6) = n by show _ * 1000 = n; omega]
  · rw [readFraction_padded (by omega) (by omega) hn]
    rw [show n * Nat.pow 10 (9 - 9) = n from Nat.mul_one n]

theorem resolve_parts {t : Instant} (ht : t.Valid) :
    resolve t.date (t.second / 3600) (t.second / 60 % 60)
      (if 1000000000 ≤ t.nano then t.second % 60 + 1 else t.second % 60) (nanoOf t) 0 = .ok t := by
  obtain ⟨hdate, hsecond, hnano, hleap⟩ := id ht
  have hshown : (⟨t.date, t.second / 3600 * 3600 + t.second / 60 % 60 * 60 + t.second % 60,
      t.nano⟩ : Instant) = t := by
    rw [show t.second / 3600 * 3600 + t.second / 60 % 60 * 60 + t.second % 60 = t.second by omega]
  unfold resolve nanoOf
  rw [if_neg (not_not_intro hdate)]
  by_cases h : 1000000000 ≤ t.nano
  · -- a leap second is shown as second 60, which is read as 59 with a longer fraction
    have hlast := hleap h
    simp only [h, if_true, hlast]
    rw [if_neg (by omega), Nat.sub_add_cancel h, ← hlast, hshown, Instant.behind?_zero ht]
  · simp only [h, if_false, show t.second % 60 ≠ 60 by omega]
    rw [if_neg (by omega), hshown, Instant.behind?_zero ht]

/-- What is written is read back. -/
theorem read_write {t : Instant} (ht : t.Valid) : read (write t) = .ok t := by
  obtain ⟨hdate, hsecond, hnano, hleap⟩ := id ht
  obtain ⟨hfirst, hlast, hmonth1, hmonth12, hday1, -⟩ := id hdate
  have hday31 := hdate.day_le
  have hyear : ∀ rest, readYear (writeYear t.date.year ++ '-' :: rest) =
      .ok (t.date.year, '-' :: rest) :=
    fun _ => readYear_writeYear hfirst hlast (Numeral.ends_cons (by decide))
  have hdash : ∀ rest, readMark '-' ('-' :: rest) = .ok rest := fun _ => readMark_self (by decide)
  have hcolon : ∀ rest, readMark ':' (':' :: rest) = .ok rest := fun _ => readMark_self (by decide)
  have hmonth : ∀ rest, readPart 1 12 (Numeral.padded 2 t.date.month ++ rest) =
      .ok (t.date.month, rest) := fun _ => readPart_padded hmonth1 hmonth12 (by omega)
  have hday : ∀ rest, readPart 1 31 (Numeral.padded 2 t.date.day ++ rest) =
      .ok (t.date.day, rest) := fun _ => readPart_padded hday1 hday31 (by omega)
  have hhours : ∀ rest, readPart 0 23 (Numeral.padded 2 (t.second / 3600) ++ rest) =
      .ok (t.second / 3600, rest) := fun _ => readPart_padded (by omega) (by omega) (by omega)
  have hminutes : ∀ rest, readPart 0 59 (Numeral.padded 2 (t.second / 60 % 60) ++ rest) =
      .ok (t.second / 60 % 60, rest) := fun _ => readPart_padded (by omega) (by omega) (by omega)
  have hseconds : ∀ rest, readPart 0 60 (Numeral.padded 2
      (if 1000000000 ≤ t.nano then t.second % 60 + 1 else t.second % 60) ++ rest) =
      .ok (if 1000000000 ≤ t.nano then t.second % 60 + 1 else t.second % 60, rest) :=
    fun _ => readPart_padded (by omega) (by split_ifs <;> omega) (by split_ifs <;> omega)
  have hfraction : readFraction (writeFraction (nanoOf t) ++ ['Z']) = .ok (nanoOf t, ['Z']) :=
    readFraction_writeFraction (by
      unfold nanoOf
      split_ifs <;> omega)
  have hdivider : ∀ rest, readDivider ('T' :: rest) = .ok rest := fun _ => rfl
  have hzone : readOffset (Text.trimLeft ['Z']) = .ok (0, []) := rfl
  have hend : ¬ Text.trimLeft [] ≠ [] := by simp [Text.trimLeft]
  simp only [write, writeSeconds, List.append_assoc, List.cons_append, read, hyear, hdash, hcolon,
    hmonth, hday, hhours, hminutes, hseconds, hfraction, hdivider, hzone, hend, ok_bind, if_false]
  exact resolve_parts ht

/-! ### The characters that are written -/

/-- The characters of canonical texts. -/
def IsStamp (c : Char) : Prop :=
  Numeral.isDigit c ∨ c ∈ ['+', '-', '.', ':', 'T', 'Z']

theorem isStamp_of_mem_padded {w : Nat} : ∀ c ∈ Numeral.padded w n, IsStamp c := fun _ hc =>
  .inl (Numeral.isDigit_of_ofDigitsFrom?
    (Numeral.ofDigitsFrom?_paddedIn (by omega) (by omega) w n) hc)

theorem isStamp_of_mem_write {t : Instant} : ∀ c ∈ write t, IsStamp c := by
  have hyear : ∀ c ∈ writeYear t.date.year, IsStamp c := by
    unfold writeYear
    split_ifs
    · exact List.forall_mem_cons.2 ⟨.inr (by decide), isStamp_of_mem_padded⟩
    · exact List.forall_mem_cons.2 ⟨.inr (by decide), isStamp_of_mem_padded⟩
    · exact isStamp_of_mem_padded
  have hfraction : ∀ c ∈ writeFraction (nanoOf t), IsStamp c := by
    unfold writeFraction
    split_ifs
    · simp
    all_goals exact List.forall_mem_cons.2 ⟨.inr (by decide), isStamp_of_mem_padded⟩
  have hmarks : IsStamp '-' ∧ IsStamp 'T' ∧ IsStamp ':' ∧ IsStamp 'Z' :=
    ⟨.inr (by decide), .inr (by decide), .inr (by decide), .inr (by decide)⟩
  obtain ⟨hdash, hdivider, hcolon, hzone⟩ := hmarks
  simp only [write, writeSeconds, List.append_assoc, List.cons_append, List.forall_mem_append,
    List.forall_mem_cons]
  exact ⟨hyear, hdash, isStamp_of_mem_padded, hdash, isStamp_of_mem_padded, hdivider,
    isStamp_of_mem_padded, hcolon, isStamp_of_mem_padded, hcolon, isStamp_of_mem_padded,
    hfraction, hzone, by simp⟩

end Rfc3339

end Teller.Time

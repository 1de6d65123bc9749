import Teller.Json.Text
import Teller.Proofs.Numeral

/-!
# Strings of JSON read back

`read_flatMap_writeChar`: the pieces of a written string are one for each character, and joined they
are the string, whatever its characters.
-/

namespace Teller.Json

/-- The characters that are written as a backslash and a letter. -/
def lettered : List Char := ['"', '\\', '\x08', '\x0c', '\n', '\r', '\t']

theorem writeChar_of_not_lettered {c : Char} (h : c ∉ lettered) :
    writeChar c = if c.toNat < 0x20 then '\\' :: 'u' :: Numeral.paddedHex 4 c.toNat else [c] := by
  unfold lettered at h
  unfold writeChar
  split <;> simp_all

namespace Piece

variable {c : Char} {p : Piece} {cs rest : List Char}

/-- From the written form of the character the piece is read and nothing else, and joined it is the
character. -/
structure Writes (p : Piece) (c : Char) : Prop where
  read_append : ∀ rest, read (writeChar c ++ rest) = (read rest).map fun (ps, left) => (p :: ps, left)
  join_cons : ∀ ps, join (p :: ps) = (join ps).map (c :: ·)

theorem writes_escaped {e : Char} (hwrite : writeChar c = ['\\', e]) (he : escaped e = some c)
    (hu : e ≠ 'u') : Writes (.char c) c where
  read_append rest := by
    rw [hwrite]
    cases hrest : read rest <;> simp [read, he, hu, hrest]
  join_cons _ := rfl

theorem writes_control (hwrite : writeChar c = '\\' :: 'u' :: Numeral.paddedHex 4 c.toNat)
    (hcontrol : c.toNat < 0x20) : Writes (.unit c.toNat) c where
  read_append rest := by
    have hlength : (Numeral.paddedHex 4 c.toNat).length = 4 :=
      Numeral.length_paddedIn (by omega) (show c.toNat < 65536 by omega)
    have hvalue : Numeral.ofDigitsFrom? 16 0 (Numeral.paddedHex 4 c.toNat) = some c.toNat :=
      Numeral.ofDigitsFrom?_paddedIn (by omega) (by omega) 4 c.toNat
    rw [hwrite]
    match hdigits : Numeral.paddedHex 4 c.toNat, hlength with
    | [a, b, d, e], _ =>
      have hhex : hex a b d e = some c.toNat := by rwa [hdigits] at hvalue
      cases hrest : read rest <;> simp [read, hhex, hrest]
  join_cons ps := by
    have hlow : ¬ IsLow c.toNat := fun h => by
      have := h.1
      omega
    have hhigh : ¬ IsHigh c.toNat := fun h => by
      have := h.1
      omega
    rw [join.eq_def]
    simp only
    rw [if_neg hlow, if_neg hhigh, Char.ofNat_toNat]

theorem writes_plain (hwrite : writeChar c = [c]) (hquote : c ≠ '"') (hback : c ≠ '\\')
    (hcontrol : ¬ c.toNat < 0x20) : Writes (.char c) c where
  read_append rest := by
    rw [hwrite]
    cases hrest : read rest <;> simp [read, hback, hcontrol, hrest]
  join_cons _ := rfl

theorem exists_writes (c : Char) : ∃ p, Writes p c := by
  by_cases hspecial : c ∈ lettered
  · refine ⟨.char c, ?_⟩
    simp only [lettered, List.mem_cons, List.not_mem_nil, or_false] at hspecial
    rcases hspecial with rfl | rfl | rfl | rfl | rfl | rfl | rfl
    all_goals exact writes_escaped rfl rfl (by decide)
  · have hwrite := writeChar_of_not_lettered hspecial
    by_cases hcontrol : c.toNat < 0x20
    · exact ⟨_, writes_control (by rw [hwrite, if_pos hcontrol]) hcontrol⟩
    · have hquote : c ≠ '"' := fun h => hspecial (h ▸ by decide)
      have hback : c ≠ '\\' := fun h => hspecial (h ▸ by decide)
      exact ⟨_, writes_plain (by rw [hwrite, if_neg hcontrol]) hquote hback hcontrol⟩

/-- What is written is read as pieces that join to it. -/
theorem read_flatMap_writeChar (cs rest : List Char) :
    ∃ ps, read (cs.flatMap writeChar ++ '"' :: rest) = some (ps, rest) ∧ join ps = some cs := by
  induction cs with
  | nil => exact ⟨[], rfl, rfl⟩
  | cons c cs ih =>
    obtain ⟨ps, hps, hjoin⟩ := ih
    obtain ⟨p, hp⟩ := exists_writes c
    refine ⟨p :: ps, ?_, ?_⟩
    · rw [List.flatMap_cons, List.append_assoc, hp.read_append, hps]
      rfl
    · rw [hp.join_cons, hjoin]
      rfl

end Piece

end Teller.Json

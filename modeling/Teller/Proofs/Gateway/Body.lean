import Mathlib.Tactic.SplitIfs
import Teller.Gateway.Message
import Teller.Json.Tree

/-!
# Bodies as text

A body is octets. If they are a text, that is what is read (`Body.text_ofText`). Other octets are a fault
wherever they are looked at: no value begins with them, they cannot be escaped, and no string that holds them
is a text. They may only stand in a string that nobody looks at.
-/

namespace Teller

open Text

/-! ### Text that was encoded -/

namespace Text.Utf8

theorem toNat_cases (c : Char) : c.toNat < 0xd800 ∨ 0xe000 ≤ c.toNat ∧ c.toNat < 0x110000 := by
  rcases c.valid with h | ⟨hlow, hhigh⟩
  · exact .inl h
  · exact .inr ⟨hlow, hhigh⟩

theorem ofNat_eq {c : Char} {n : Nat} (h : n = c.toNat) : Char.ofNat n = c := by
  rw [h, Char.ofNat_toNat]

/-- The first character of octets is the one that they encode. -/
theorem next_encodeChar (c : Char) (rest : List Nat) :
    ∃ a as, encodeChar c = a :: as ∧ next a (as ++ rest) = (some c, rest) := by
  have hc := toNat_cases c
  unfold encodeChar
  dsimp only
  split
  · rename_i h
    refine ⟨_, _, rfl, ?_⟩
    unfold next
    rw [if_pos h, ofNat_eq rfl]
    rfl
  split
  · rename_i h₁ h₂
    refine ⟨_, _, rfl, ?_⟩
    have htail : isTail (0x80 + c.toNat % 0x40) = true := by simp [isTail]; omega
    unfold next
    rw [if_neg (by omega), if_pos (by omega)]
    simp only [List.cons_append, List.nil_append, htail, if_true]
    rw [ofNat_eq (c := c) (by omega)]
  split
  · rename_i h₁ h₂ h₃
    refine ⟨_, _, rfl, ?_⟩
    have hsecond : isSecond (0xe0 + c.toNat / 0x1000) (0x80 + c.toNat / 0x40 % 0x40) = true := by
      unfold isSecond isTail
      split_ifs <;> simp <;> omega
    have htail : isTail (0x80 + c.toNat % 0x40) = true := by simp [isTail]; omega
    unfold next
    rw [if_neg (by omega), if_neg (by omega), if_pos (by omega)]
    simp only [List.cons_append, List.nil_append, next3, hsecond, htail, if_true]
    rw [ofNat_eq (c := c) (by omega)]
  · rename_i h₁ h₂ h₃
    refine ⟨_, _, rfl, ?_⟩
    have hsecond : isSecond (0xf0 + c.toNat / 0x40000) (0x80 + c.toNat / 0x1000 % 0x40) = true := by
      unfold isSecond isTail
      split_ifs <;> simp <;> omega
    have htail : isTail (0x80 + c.toNat / 0x40 % 0x40) = true := by simp [isTail]; omega
    have hlast : isTail (0x80 + c.toNat % 0x40) = true := by simp [isTail]; omega
    unfold next
    rw [if_neg (by omega), if_neg (by omega), if_neg (by omega), if_pos (by omega)]
    simp only [List.cons_append, List.nil_append, next4, hsecond, htail, hlast, if_true]
    rw [ofNat_eq (c := c) (by omega)]

theorem decodeWith_encode (replacement cs : List Char) : decodeWith replacement (encode cs) = cs := by
  induction cs with
  | nil => simp [encode, decodeWith]
  | cons c cs ih =>
    obtain ⟨a, as, hchar, hnext⟩ := next_encodeChar c (encode cs)
    have hencode : encode (c :: cs) = a :: (as ++ encode cs) := by
      rw [encode, List.flatMap_cons, hchar]
      rfl
    rw [hencode, decodeWith, hnext, ih]
    rfl

theorem lt_of_mem_encode {cs : List Char} {n : Nat} (h : n ∈ encode cs) : n < 0x100 := by
  obtain ⟨c, -, hn⟩ := List.mem_flatMap.1 h
  have hc := toNat_cases c
  unfold encodeChar at hn
  dsimp only at hn
  split_ifs at hn <;> simp only [List.mem_cons, List.not_mem_nil, or_false] at hn <;> omega

end Text.Utf8

namespace Gateway.Body

/-- A body that is a text is read as that text. -/
theorem text_ofText (s : String) : (ofText s).text = s := by
  have hoctets : ((Utf8.encode s.toList).map UInt8.ofNat).map UInt8.toNat = Utf8.encode s.toList := by
    rw [List.map_map, List.map_congr_left (g := id), List.map_id]
    intro n hn
    exact UInt8.toNat_ofNat_of_lt (Utf8.lt_of_mem_encode hn)
  rw [text, ofText, hoctets, Utf8.decodeWith_encode, String.ofList_toList]

/-! ### Octets that are no text -/

/-- The pieces of a string that are read for a stray octet. -/
def strayPieces : List Json.Piece :=
  [.char 'Z', .unit 0xd800, .char 'Z']

/-- No value begins with a stray octet. -/
theorem readTree_stray (fuel : Nat) (cs : List Char) : Json.readTree (fuel + 1) (stray ++ cs) = (.broken, none) :=
  rfl

/-- A stray octet does not follow a backslash. -/
theorem read_escaped_stray (cs : List Char) : Json.Piece.read ('\\' :: stray ++ cs) = none :=
  rfl

/-- A string goes on after a stray octet. -/
theorem read_stray (cs : List Char) :
    Json.Piece.read (stray ++ cs) = (Json.Piece.read cs).map fun (ps, rest) => (strayPieces ++ ps, rest) := by
  have hhex : Json.Piece.hex 'd' '8' '0' '0' = some 0xd800 := by decide
  cases h : Json.Piece.read cs <;> simp [stray, strayPieces, Json.Piece.read, h, hhex]

theorem join_unit {n : Nat} {ps : List Json.Piece} (h : Json.Piece.join ps = none)
    (hnext : ∀ m qs, ps = .unit m :: qs → Json.Piece.join qs = none) : Json.Piece.join (.unit n :: ps) = none := by
  unfold Json.Piece.join
  split
  · rfl
  split
  · split
    · rename_i m qs
      rw [hnext m qs rfl]
      split <;> rfl
    · rfl
  · rw [h]
    rfl

/-- A string with a stray octet in it is no text. -/
theorem join_stray : (qs ps : List Json.Piece) → Json.Piece.join (qs ++ strayPieces ++ ps) = none
  | [], _ => rfl
  | .char c :: qs, ps => by
    show (Json.Piece.join (qs ++ strayPieces ++ ps)).map _ = none
    rw [join_stray qs ps]
    rfl
  | [.unit n], ps => join_unit (join_stray [] ps) nofun
  | .unit n :: q :: qs, ps => by
    -- the two units may be a pair, and then what follows them is looked at next
    refine join_unit (join_stray (q :: qs) ps) fun m rest h => ?_
    obtain rfl : qs ++ strayPieces ++ ps = rest := (List.cons.inj h).2
    exact join_stray qs ps

end Gateway.Body

end Teller

import Teller.Json.Tree
import Teller.Json.Write
import Teller.Proofs.Json.Number
import Teller.Proofs.Json.Text
import Teller.Proofs.Time.Rfc3339
import Mathlib.Tactic.SplitIfs

/-!
# Written JSON is read as a tree

`ofText_render`: the text of any data whose numbers fit in 64 bits is JSON, and its tree is that of
the data, `tree`. The induction is on the data, along `write`; the fuel of the reader is three times
the length of what is read.
-/

namespace Teller.Json

open Teller.Json.Numeral (Ends ends_nil ends_cons)

/-! ### The tree of data -/

mutual

/-- The tree of data as JSON. -/
def tree : Datum → Tree
  | .absent => .null
  | .bool b => .bool b
  | .int n => .number (some (.int n))
  | .text s => .text (some s)
  | .time t => .text (some (String.ofList (Time.Rfc3339.write t)))
  | .list items => .array (treeItems items)
  | .record fields => .object (treeFields fields)

def treeItems : List Datum → Items
  | [] => .close
  | d :: ds => .cons (tree d) (treeItems ds)

def treeFields : List (String × Datum) → Members
  | [] => .close
  | (name, d) :: rest => .cons (some name) (tree d) (treeFields rest)

end

mutual

/-- The numbers of the data fit in 64 bits, signed or not. -/
def Fits : Datum → Prop
  | .int n => -9223372036854775808 ≤ n ∧ n < 18446744073709551616
  | .list items => FitItems items
  | .record fields => FitFields fields
  | _ => True

def FitItems : List Datum → Prop
  | [] => True
  | d :: ds => Fits d ∧ FitItems ds

def FitFields : List (String × Datum) → Prop
  | [] => True
  | (_, d) :: rest => Fits d ∧ FitFields rest

end

theorem fitFields_iff {fields : List (String × Datum)} :
    FitFields fields ↔ ∀ p ∈ fields, Fits p.2 := by
  induction fields with
  | nil => simp [FitFields]
  | cons p rest ih => rw [FitFields, List.forall_mem_cons, ih]

/-! ### The text of data -/

/-- The items after the first one, up to the closing bracket. -/
def writeMoreItems : List Datum → List Char
  | [] => [']']
  | d :: ds => ',' :: write d ++ writeMoreItems ds

/-- The fields after the first one, up to the closing brace. -/
def writeMoreFields : List (String × Datum) → List Char
  | [] => ['\x7d']
  | (name, d) :: rest => ',' :: writeText name ++ ':' :: write d ++ writeMoreFields rest

theorem writeItems_cons (d : Datum) (ds : List Datum) :
    writeItems (d :: ds) = write d ++ writeMoreItems ds := by
  induction ds generalizing d with
  | nil => simp [writeItems, writeMoreItems]
  | cons e ds ih => rw [writeItems, ih, writeMoreItems] <;> simp

theorem writeFields_cons (name : String) (d : Datum) (rest : List (String × Datum)) :
    writeFields ((name, d) :: rest) = writeText name ++ ':' :: write d ++ writeMoreFields rest := by
  induction rest generalizing name d with
  | nil => simp [writeFields, writeMoreFields]
  | cons f rest ih =>
    obtain ⟨name', d'⟩ := f
    rw [writeFields, ih, writeMoreFields] <;> simp

section

variable {d : Datum} {c : Char} {cs rest more : List Char} {fuel : Nat} {name s : String}

theorem skip_cons (h : isSpace c = false) : skip (c :: cs) = c :: cs := by
  simp [skip, h]

theorem isSpace_of_isDigit (h : Teller.Numeral.isDigit c) : isSpace c = false := by
  have hne : ∀ b, Teller.Numeral.isDigit b = false → c ≠ b := by
    rintro b hb rfl
    simp [hb] at h
  simp only [isSpace, Bool.or_eq_false_iff, decide_eq_false_iff_not]
  exact ⟨⟨⟨hne ' ' (by decide), hne '\n' (by decide)⟩, hne '\t' (by decide)⟩, hne '\r' (by decide)⟩

/-- The first character of a value: no blank, and nothing that separates or closes. -/
theorem exists_write (d : Datum) :
    ∃ c cs, write d = c :: cs ∧ isSpace c = false ∧ c ≠ ',' ∧ c ≠ ']' := by
  cases d with
  | bool b => cases b <;> exact ⟨_, _, rfl, by decide⟩
  | int n =>
    obtain ⟨c, cs, hcs, hc, -⟩ := Numeral.exists_digits n.natAbs
    by_cases hneg : n < 0
    · exact ⟨'-', _, by rw [write, Teller.Numeral.decimal, if_pos hneg], by decide⟩
    · refine ⟨c, cs, by rw [write, Teller.Numeral.decimal, if_neg hneg, hcs],
        isSpace_of_isDigit hc, ?_, ?_⟩
      all_goals
        rintro rfl
        exact absurd hc (by decide)
  | _ => exact ⟨_, _, rfl, by decide⟩

theorem length_write_pos (d : Datum) : 0 < (write d).length := by
  obtain ⟨c, cs, hcs, -⟩ := exists_write d
  simp [hcs]

/-! ### Strings -/

theorem writeText_append :
    writeText s ++ rest = '"' :: (s.toList.flatMap writeChar ++ '"' :: rest) := by
  simp [writeText]

theorem readText_flatMap_writeChar :
    readText (s.toList.flatMap writeChar ++ '"' :: rest) = some (some s, rest) := by
  obtain ⟨ps, hps, hjoin⟩ := Piece.read_flatMap_writeChar s.toList rest
  simp [readText, hps, hjoin]

theorem readTree_writeText :
    readTree (fuel + 1) (writeText s ++ rest) = (.text (some s), some rest) := by
  rw [writeText_append, readTree, skip_cons (by decide)]
  simp only
  rw [readText_flatMap_writeChar]

/-- No character of a canonical time is written otherwise in a string. -/
theorem writeChar_of_isStamp (h : Time.Rfc3339.IsStamp c) : writeChar c = [c] := by
  rcases h with hc | hc
  · have hvalue := Teller.Numeral.isDigit_iff.1 hc
    have hlettered : c ∉ lettered := fun h => by
      simp only [lettered, List.mem_cons, List.not_mem_nil, or_false] at h
      rcases h with rfl | rfl | rfl | rfl | rfl | rfl | rfl <;> exact absurd hc (by decide)
    rw [writeChar_of_not_lettered hlettered, if_neg (by omega)]
  · simp only [List.mem_cons, List.not_mem_nil, or_false] at hc
    rcases hc with rfl | rfl | rfl | rfl | rfl | rfl <;> rfl

theorem write_time (t : Time.Instant) :
    write (.time t) = writeText (String.ofList (Time.Rfc3339.write t)) := by
  have hplain : (Time.Rfc3339.write t).flatMap writeChar = Time.Rfc3339.write t := by
    rw [List.flatMap_def, List.map_congr_left fun c hc =>
      writeChar_of_isStamp (Time.Rfc3339.isStamp_of_mem_write c hc), ← List.flatMap_def]
    exact List.flatMap_singleton' _
  rw [write, writeText, String.toList_ofList, hplain]

/-! ### Numbers -/

theorem readTree_of_numeral (hc : c = '-' ∨ Teller.Numeral.isDigit c) :
    readTree (fuel + 1) (c :: cs) =
      match Numeral.read (c :: cs) with
      | some (l, rest) => (.number l.value?, some rest)
      | none => (.broken, none) := by
  have hspace : isSpace c = false := by
    rcases hc with rfl | hc
    · rfl
    · exact isSpace_of_isDigit hc
  rw [readTree, skip_cons hspace]
  split
  case h_1 heq => cases heq
  case h_8 heq =>
    cases heq
    rfl
  all_goals
    rename_i heq
    cases heq
    exact absurd hc (by decide)

theorem readTree_decimal {n : Int} (hn : -9223372036854775808 ≤ n ∧ n < 18446744073709551616)
    (h : Ends rest) : readTree (fuel + 1) (Teller.Numeral.decimal n ++ rest) =
      (.number (some (.int n)), some rest) := by
  obtain ⟨c, cs, hcs, hc⟩ : ∃ c cs, Teller.Numeral.decimal n = c :: cs ∧
      (c = '-' ∨ Teller.Numeral.isDigit c) := by
    obtain ⟨c, cs, hcs, hc, -⟩ := Numeral.exists_digits n.natAbs
    unfold Teller.Numeral.decimal
    split_ifs
    · exact ⟨'-', _, rfl, .inl rfl⟩
    · exact ⟨c, cs, hcs, .inr hc⟩
  have hread := Numeral.read_decimal (x := n) h
  rw [hcs] at hread ⊢
  rw [List.cons_append] at hread ⊢
  rw [readTree_of_numeral hc, hread]
  simp only
  rw [Numeral.value?_ofInt hn.1 hn.2]

/-! ### Containers -/

theorem readItem_of {items : Items} (hd : readTree fuel (write d ++ more) = (tree d, some more))
    (hmore : readItems fuel false more = (items, some rest)) :
    readItem (fuel + 1) (write d ++ more) = (.cons (tree d) items, some rest) := by
  obtain ⟨c, cs, hcs, hspace, -, hclose⟩ := exists_write d
  rw [hcs, List.cons_append] at hd ⊢
  rw [readItem, skip_cons hspace]
  split
  · rename_i heq
    cases heq
    exact absurd rfl hclose
  · rw [hd]
    simp only
    rw [hmore]

theorem readItems_first {r : Items × Option (List Char)} (h : readItem fuel (write d ++ more) = r) :
    readItems (fuel + 1) true (write d ++ more) = r := by
  obtain ⟨c, cs, hcs, hspace, hcomma, hclose⟩ := exists_write d
  rw [hcs, List.cons_append] at h ⊢
  rw [readItems, skip_cons hspace]
  split
  · rename_i heq
    cases heq
    exact absurd rfl hclose
  · rename_i heq
    cases heq
    exact absurd rfl hcomma
  · exact h

theorem readItems_next {r : Items × Option (List Char)} (h : readItem fuel cs = r) :
    readItems (fuel + 1) false (',' :: cs) = r := by
  rw [readItems, skip_cons (by decide)]
  exact h

theorem readMember_of {members : Members}
    (hd : readTree fuel (write d ++ more) = (tree d, some more))
    (hmore : readMembers fuel false more = (members, some rest)) :
    readMember (fuel + 1) (name.toList.flatMap writeChar ++ '"' :: ':' :: (write d ++ more)) =
      (.cons (some name) (tree d) members, some rest) := by
  rw [readMember, readText_flatMap_writeChar]
  simp only
  rw [skip_cons (by decide)]
  simp only
  rw [hd]
  simp only
  rw [hmore]

theorem readMembers_first {r : Members × Option (List Char)} (h : readMember fuel cs = r) :
    readMembers (fuel + 1) true ('"' :: cs) = r := by
  rw [readMembers, skip_cons (by decide)]
  exact h

theorem readMembers_next {r : Members × Option (List Char)} (h : readMember fuel cs = r) :
    readMembers (fuel + 1) false (',' :: '"' :: cs) = r := by
  rw [readMembers, skip_cons (by decide)]
  simp only
  rw [skip_cons (by decide)]
  exact h

theorem length_writeMoreItems_pos (ds : List Datum) : 0 < (writeMoreItems ds).length := by
  cases ds <;> simp [writeMoreItems]

theorem ends_writeMoreItems (ds : List Datum) : Ends (writeMoreItems ds ++ rest) := by
  cases ds <;> exact ends_cons (by decide)

theorem ends_writeMoreFields (fields : List (String × Datum)) :
    Ends (writeMoreFields fields ++ rest) := by
  cases fields <;> exact ends_cons (by decide)

end

/-! ### Data -/

mutual

/-- Fuel of three times the length of a value is enough to read it, whatever follows it that does
not continue a number. -/
theorem readTree_write : (d : Datum) → Fits d → (fuel : Nat) → (rest : List Char) →
    3 * (write d).length ≤ fuel → Ends rest → readTree fuel (write d ++ rest) = (tree d, some rest)
  | .absent, _, fuel + 1, rest, _, _ => rfl
  | .bool true, _, fuel + 1, rest, _, _ => rfl
  | .bool false, _, fuel + 1, rest, _, _ => rfl
  | .int n, hd, fuel + 1, rest, _, hrest => by
    rw [write]
    exact readTree_decimal hd hrest
  | .text s, _, fuel + 1, rest, _, _ => by
    rw [write]
    exact readTree_writeText
  | .time t, _, fuel + 1, rest, _, _ => by
    rw [write_time, tree]
    exact readTree_writeText
  | .list items, hd, fuel + 1, rest, hfuel, hrest => by
    have hitems := (readItems_write items hd fuel rest).1 (by
      rw [write, List.length_cons] at hfuel
      omega)
    rw [write, List.cons_append, readTree, skip_cons (by decide), tree]
    simp only
    rw [hitems]
  | .record fields, hd, fuel + 1, rest, hfuel, hrest => by
    have hfields := (readMembers_write fields hd fuel rest).1 (by
      rw [write, List.length_cons] at hfuel
      omega)
    rw [write, List.cons_append, readTree, skip_cons (by decide), tree]
    simp only
    rw [hfields]
  | d, _, 0, rest, hfuel, _ => by
    have := length_write_pos d
    omega

theorem readItems_write : (ds : List Datum) → FitItems ds → (fuel : Nat) → (rest : List Char) →
    (3 * (writeItems ds).length ≤ fuel →
      readItems fuel true (writeItems ds ++ rest) = (treeItems ds, some rest)) ∧
    (3 * (writeMoreItems ds).length ≤ fuel →
      readItems fuel false (writeMoreItems ds ++ rest) = (treeItems ds, some rest))
  | [], _, 0, rest =>
    ⟨fun h => absurd h (by simp [writeItems]), fun h => absurd h (by simp [writeMoreItems])⟩
  | [], _, fuel + 1, rest => ⟨fun _ => rfl, fun _ => rfl⟩
  | d :: ds, ⟨hd, hds⟩, fuel, rest => by
    have hitem : ∀ f, 3 * (write d).length ≤ f → 3 * (writeMoreItems ds).length ≤ f →
        readItem (f + 1) (write d ++ (writeMoreItems ds ++ rest)) =
          (treeItems (d :: ds), some rest) := fun f hf hmore =>
      readItem_of (readTree_write d hd f _ hf (ends_writeMoreItems ds))
        ((readItems_write ds hds f rest).2 hmore)
    -- each level of the reader costs one of the fuel, and each item has at least two characters
    have hlength := length_write_pos d
    have hmore := length_writeMoreItems_pos ds
    rw [writeItems_cons, writeMoreItems]
    simp only [List.length_cons, List.length_append, List.cons_append, List.append_assoc]
    constructor
    · intro hfuel
      match fuel with
      | 0 | 1 => omega
      | f + 2 => exact readItems_first (hitem f (by omega) (by omega))
    · intro hfuel
      match fuel with
      | 0 | 1 => omega
      | f + 2 => exact readItems_next (hitem f (by omega) (by omega))

theorem readMembers_write : (fields : List (String × Datum)) → FitFields fields → (fuel : Nat) →
    (rest : List Char) →
    (3 * (writeFields fields).length ≤ fuel →
      readMembers fuel true (writeFields fields ++ rest) = (treeFields fields, some rest)) ∧
    (3 * (writeMoreFields fields).length ≤ fuel →
      readMembers fuel false (writeMoreFields fields ++ rest) = (treeFields fields, some rest))
  | [], _, 0, rest =>
    ⟨fun h => absurd h (by simp [writeFields]), fun h => absurd h (by simp [writeMoreFields])⟩
  | [], _, fuel + 1, rest => ⟨fun _ => rfl, fun _ => rfl⟩
  | (name, d) :: fields, ⟨hd, hfields⟩, fuel, rest => by
    have hmember : ∀ f, 3 * (write d).length ≤ f → 3 * (writeMoreFields fields).length ≤ f →
        readMember (f + 1) (name.toList.flatMap writeChar ++
            '"' :: ':' :: (write d ++ (writeMoreFields fields ++ rest))) =
          (treeFields ((name, d) :: fields), some rest) := fun f hf hmore =>
      readMember_of (readTree_write d hd f _ hf (ends_writeMoreFields fields))
        ((readMembers_write fields hfields f rest).2 hmore)
    rw [writeFields_cons, writeMoreFields]
    simp only [List.length_cons, List.length_append, List.cons_append, List.append_assoc,
      writeText_append]
    constructor
    · intro hfuel
      match fuel with
      | 0 | 1 => omega
      | f + 2 => exact readMembers_first (hmember f (by omega) (by omega))
    · intro hfuel
      match fuel with
      | 0 | 1 => omega
      | f + 2 => exact readMembers_next (hmember f (by omega) (by omega))

end

/-- The text of data is the tree of the data and nothing else. -/
theorem ofText_render {d : Datum} (h : Fits d) : Tree.ofText (render d) = (tree d, true) := by
  have hread := readTree_write d h (3 * (write d).length + 3) [] (by omega) ends_nil
  rw [List.append_nil] at hread
  rw [Tree.ofText, render, String.toList_ofList]
  simp only [hread]
  rfl

end Teller.Json

import Teller.Json.Decode
import Teller.Proofs.Json.Tree
import Teller.Proofs.Schema

/-!
# What JSON is decoded to

`conforms_of_decode`: whatever is read from JSON, objects with their fields in any order or arrays,
has the shape of the schema. `read_render_of_spells`: a record is read from the text of its fields in
any order, with those left out that have their default; in particular, data of the right shape read
back from their own text, `read_render`.
-/

namespace Teller.Json

open Schema (Conforms Keeps Spells kept spells_kept)

variable {s : Schema} {d : Datum} {t : Tree} {name : String} {words : List String}
  {fields : List (FieldRule × Schema)} {ds found : List (String × Datum)} {value : String → Datum}

/-! ### What is decoded has the right shape -/

theorem oneOf_eq_ok_iff {w : String} : oneOf words w = .ok d ↔ w ∈ words ∧ d = .text w := by
  rw [oneOf, mapError_eq_ok_iff, Schema.oneOf]
  split <;> simp_all [eq_comm]

theorem conforms_of_choiceOf {members : Members} (h : choiceOf words members = .ok d) :
    Conforms (.choice words) d := by
  unfold choiceOf at h
  split at h
  · cases h
  · obtain ⟨_, -, h⟩ := bind_eq_ok_iff.1 h
    cases h
  · obtain ⟨e, he, h⟩ := bind_eq_ok_iff.1 h
    obtain ⟨hw, rfl⟩ := oneOf_eq_ok_iff.1 he
    split at h
    · cases h
      exact .choice hw
    · cases h
    · cases h
  · cases h

theorem conforms_of_instant {text : String} (h : instant text = .ok d) : Conforms .time d := by
  unfold instant at h
  split at h
  · rename_i hread
    cases h
    exact .time (Time.Rfc3339.valid_of_read hread)
  · cases h

theorem conforms_of_scalar : {s : Schema} → scalar t s = .ok d → Conforms s d
  | .optional s, h => by
    unfold scalar at h
    split at h
    · cases h
      exact .absent s
    · exact .present (conforms_of_scalar h)
  | .bool, h => by
    unfold scalar at h
    split at h
    · cases h
      exact .bool _
    · cases h
  | .int range, h => by
    unfold scalar at h
    split at h
    · rw [mapError_eq_ok_iff, IntRange.accept] at h
      split at h
      · rename_i hn
        cases h
        exact .int hn
      · cases h
    · cases h
  | .text, h => by
    unfold scalar at h
    split at h
    · cases h
      exact .text _
    · cases h
  | .time, h => by
    unfold scalar at h
    split at h
    · exact conforms_of_instant h
    · cases h
  | .choice words, h => by
    unfold scalar at h
    split at h
    · obtain ⟨hw, rfl⟩ := oneOf_eq_ok_iff.1 h
      exact .choice hw
    · exact conforms_of_choiceOf h
    · cases h
  | .record _ _, h => by
    cases h

/-- What was found has the shape of the field of its name. -/
def FoundConforms (fields : List (FieldRule × Schema)) (found : List (String × Datum)) : Prop :=
  ∀ key d, found.lookup key = some d → ∀ rule s, Schema.field? key fields = some (rule, s) →
    s.Conforms d

theorem FoundConforms.cons {key : String} {rule : FieldRule} (h : FoundConforms fields found)
    (hfield : Schema.field? key fields = some (rule, s)) (hd : s.Conforms d) :
    FoundConforms fields ((key, d) :: found) := by
  intro key' d' hlookup rule' s' hfield'
  rw [List.lookup_cons] at hlookup
  split at hlookup
  · rename_i hkey
    obtain rfl := eq_of_beq hkey
    cases hlookup
    rw [hfield] at hfield'
    cases hfield'
    exact hd
  · exact h key' d' hlookup rule' s' hfield'

theorem keeps_of_closeWith {count index : Nat} (hnames : (fields.map fun f => f.1.name).Nodup)
    (hrules : ∀ f ∈ fields, f.1.Lawful f.2) (h : closeWith name count index fields = .ok ds) :
    Keeps fields ds := by
  induction fields generalizing index ds with
  | nil =>
    cases h
    exact .nil
  | cons f rest ih =>
    obtain ⟨rule, s⟩ := f
    rw [List.map_cons, List.nodup_cons] at hnames
    rw [List.forall_mem_cons] at hrules
    unfold closeWith at h
    split at h
    · rename_i d hd
      obtain ⟨es, hes, h⟩ := bind_eq_ok_iff.1 h
      cases h
      obtain ⟨hconforms, hkeep⟩ := hrules.1.ifShort d hd
      have := Keeps.cons hnames.1 hconforms (ih hnames.2 hrules.2 hes)
      rwa [hkeep] at this
    · cases h

/-- A container is decoded to a record, or else like any other value. -/
theorem decode_array {items : Items} (h : (Tree.array items).decode s = .ok d) :
    scalar (.array items) s = .ok d ∨
      ∃ name fields ds, s.inner = .record name fields ∧
        items.decode name fields.length 0 fields = .ok ds ∧ d = .record ds := by
  rw [Tree.decode] at h
  split at h
  · rename_i name fields hinner
    obtain ⟨ds, hds, h⟩ := bind_eq_ok_iff.1 h
    cases h
    exact .inr ⟨name, fields, ds, hinner, hds, rfl⟩
  · exact .inl h

theorem decode_object {members : Members} (h : (Tree.object members).decode s = .ok d) :
    scalar (.object members) s = .ok d ∨
      ∃ name fields found ds, s.inner = .record name fields ∧
        members.decode fields [] = .ok found ∧ Schema.assemble found fields = .ok ds ∧
        d = .record ds := by
  rw [Tree.decode] at h
  split at h
  · rename_i name fields hinner
    obtain ⟨found, hfound, h⟩ := bind_eq_ok_iff.1 h
    split at h
    · rename_i ds hds
      cases h
      exact .inr ⟨name, fields, found, ds, hinner, hfound, hds, rfl⟩
    · cases h
  · exact .inl h

mutual

/-- What is decoded has the right shape. The induction is on the tree: every part of the data comes
from a part of it, or from a default. -/
theorem conforms_of_decode : (t : Tree) → {s : Schema} → {d : Datum} → s.Lawful →
    t.decode s = .ok d → Conforms s d
  | .array items, s, d, hs, h => by
    rcases decode_array h with h | ⟨name, fields, ds, hinner, hds, rfl⟩
    · exact conforms_of_scalar h
    · have hrecord := hinner ▸ hs.inner
      cases hrecord with
      | record hnames hrules hfields =>
        have hkeeps := keeps_of_decode items hnames hrules hfields hds
        exact .of_inner (hinner ▸ hkeeps.conforms)
  | .object members, s, d, hs, h => by
    rcases decode_object h with h | ⟨name, fields, found, ds, hinner, hfound, hds, rfl⟩
    · exact conforms_of_scalar h
    · have hrecord := hinner ▸ hs.inner
      cases hrecord with
      | record hnames hrules hfields =>
        have hnone : FoundConforms fields [] := nofun
        have hconforms := found_of_decode members hfields hnone hfound
        have hkeeps := Schema.keeps_of_assemble hnames hrules
          (fun f hf d hd => hconforms f.1.name d hd f.1 f.2 (Schema.field?_of_mem hnames hf)) hds
        exact .of_inner (hinner ▸ hkeeps.conforms)
  | .null, _, _, _, h | .bool _, _, _, _, h | .number _, _, _, _, h | .text _, _, _, _, h
  | .broken, _, _, _, h => conforms_of_scalar h

theorem keeps_of_decode : (items : Items) → {name : String} → {count index : Nat} →
    {fields : List (FieldRule × Schema)} → {ds : List (String × Datum)} →
    (fields.map fun f => f.1.name).Nodup → (∀ f ∈ fields, f.1.Lawful f.2) →
    (∀ f ∈ fields, f.2.Lawful) → items.decode name count index fields = .ok ds → Keeps fields ds
  | .close, _, _, _, _, _, hnames, hrules, _, h => keeps_of_closeWith hnames hrules h
  | .cut, _, _, _, _, _, _, _, _, h => nomatch h
  | .cons item items, _, _, _, [], _, _, _, _, h => nomatch h
  | .cons item items, name, count, index, (rule, s) :: rest, ds, hnames, hrules, hfields, h => by
    rw [List.map_cons, List.nodup_cons] at hnames
    rw [List.forall_mem_cons] at hrules hfields
    obtain ⟨d, hd, h⟩ := bind_eq_ok_iff.1 h
    obtain ⟨es, hes, h⟩ := bind_eq_ok_iff.1 h
    have hconforms := conforms_of_decode item hfields.1 (mapError_eq_ok_iff.1 hd)
    have hrest := keeps_of_decode items hnames.2 hrules.2 hfields.2 hes
    obtain rfl : rule.keep d ++ es = ds := by
      cases d with
      | absent => by_cases hdrop : rule.dropsAbsent <;> simpa [FieldRule.keep, hdrop] using h
      | _ => simpa [FieldRule.keep] using h
    exact .cons hnames.1 hconforms hrest

theorem found_of_decode : (members : Members) → {fields : List (FieldRule × Schema)} →
    {found found' : List (String × Datum)} → (∀ f ∈ fields, f.2.Lawful) →
    FoundConforms fields found → members.decode fields found = .ok found' →
    FoundConforms fields found'
  | .close, _, _, _, _, hfound, h => by
    cases h
    exact hfound
  | .cut, _, _, _, _, _, h | .odd _, _, _, _, _, _, h | .stray none, _, _, _, _, _, h
  | .cons none _ _, _, _, _, _, _, h => nomatch h
  | .stray (some key), _, _, _, _, _, h => by
    rw [Members.decode] at h
    split at h <;> cases h
  | .cons (some key) value rest, fields, found, found', hfields, hfound, h => by
    rw [Members.decode] at h
    split at h
    · exact found_of_decode rest hfields hfound h
    · rename_i rule s hfield
      split at h
      · cases h
      · obtain ⟨d, hd, h⟩ := bind_eq_ok_iff.1 h
        have hlawful : s.Lawful := hfields _ (List.mem_of_find?_eq_some hfield)
        have hconforms := conforms_of_decode value hlawful (mapError_eq_ok_iff.1 hd)
        exact found_of_decode rest hfields (hfound.cons hfield hconforms) h

end

/-! ### Data of the right shape are decoded from their tree -/

/-- Fields that are written are found, the last one first. -/
theorem decode_treeFields (hnames : (ds.map Prod.fst).Nodup)
    (hnew : ∀ p ∈ ds, found.lookup p.1 = none)
    (hds : ∀ p ∈ ds, ∃ f, Schema.field? p.1 fields = some f ∧ (tree p.2).decode f.2 = .ok p.2) :
    (treeFields ds).decode fields found = .ok (ds.reverse ++ found) := by
  induction ds generalizing found with
  | nil => rfl
  | cons p ds ih =>
    obtain ⟨name, d⟩ := p
    rw [List.map_cons, List.nodup_cons] at hnames
    rw [List.forall_mem_cons] at hnew hds
    obtain ⟨⟨rule, s⟩, hfield, hd⟩ := hds.1
    rw [treeFields, Members.decode, hfield]
    simp only
    rw [hnew.1, if_neg (by simp), hd]
    have hnext : ∀ p ∈ ds, ((name, d) :: found).lookup p.1 = none := by
      intro p hp
      have hne : p.1 ≠ name := fun h => hnames.1 (List.mem_map.2 ⟨p, hp, h⟩)
      rw [List.lookup_cons, beq_false_of_ne hne]
      exact hnew.2 p hp
    have := ih hnames.2 hnext hds.2
    rw [List.reverse_cons, List.append_assoc, List.singleton_append, ← this]
    rfl

theorem decode_optional (hs : ∀ t, s ≠ .optional t) (h : (tree d).decode s = .ok d) :
    (tree d).decode (.optional s) = .ok d := by
  have hinner : s.inner = s := by
    cases s with
    | optional t => exact absurd rfl (hs t)
    | _ => rfl
  cases d with
  | absent => rfl
  | list items | record fields =>
    -- a container is read by the schema inside, which is `s` either way
    rw [tree, Tree.decode] at h ⊢
    rw [hinner] at h
    exact h
  | _ => exact h

/-- A record is decoded from fields that spell it out. -/
theorem decode_record (hnames : (fields.map fun f => f.1.name).Nodup)
    (hvalue : ∀ f ∈ fields, (tree (value f.1.name)).decode f.2 = .ok (value f.1.name))
    (h : Spells fields value ds) :
    (tree (.record ds)).decode (.record name fields) = .ok (.record (kept value fields)) := by
  have hfound : (treeFields ds).decode fields [] = .ok (ds.reverse ++ []) := by
    refine decode_treeFields h.names (fun _ _ => rfl) fun p hp => ?_
    obtain ⟨f, hf, rfl⟩ := h.known p hp
    exact ⟨f, Schema.field?_of_mem hnames hf, hvalue f hf⟩
  have hinner : (Schema.record name fields).inner = .record name fields := rfl
  rw [List.append_nil] at hfound
  rw [tree, Tree.decode, hinner]
  simp only
  rw [hfound, ok_bind, h.assemble (List.reverse_perm ds)]
  rfl

theorem decode_tree (h : Conforms s d) (hs : s.Lawful) : (tree d).decode s = .ok d := by
  induction h with
  | bool b => rfl
  | int hn => exact mapError_eq_ok_iff.2 (if_pos hn)
  | text w => rfl
  | time ht =>
    simp [tree, Tree.decode, scalar, instant, Time.Rfc3339.read_write ht]
  | choice hw => exact oneOf_eq_ok_iff.2 ⟨hw, rfl⟩
  | absent s => rfl
  | present h ih =>
    cases hs with
    | optional hs hinner => exact decode_optional hinner (ih hs)
  | record value _ ih =>
    cases hs with
    | record hnames hrules hfields =>
      exact decode_record hnames (fun f hf => ih f hf (hfields f hf)) (spells_kept hnames hrules)

/-! ### Data of the right shape read back -/

theorem fits_of_spells (h : Spells fields value ds) (hvalue : ∀ f ∈ fields, Fits (value f.1.name)) :
    Fits (.record ds) := by
  rw [Fits, fitFields_iff]
  intro p hp
  obtain ⟨f, hf, rfl⟩ := h.known p hp
  exact hvalue f hf

theorem fits_of_conforms (h : Conforms s d) (hs : s.Lawful) : Fits d := by
  induction h with
  | int hn =>
    cases hs with
    | int hleast hgreatest =>
      have := hn.1
      have := hn.2
      rw [Fits]
      omega
  | present h ih => exact ih hs.inner
  | record value _ ih =>
    cases hs with
    | record hnames hrules hfields =>
      exact fits_of_spells (spells_kept hnames hrules) fun f hf => ih f hf (hfields f hf)
  | _ => trivial

theorem read_of_decode (hd : Fits d) {e : Datum} (h : (tree d).decode s = .ok e) :
    read s (render d) = .ok e := by
  rw [read, ofText_render hd]
  simp only
  rw [h, ok_bind]
  rfl

/-- Data of the right shape read back from their text. -/
theorem read_render (h : Conforms s d) (hs : s.Lawful) : read s (render d) = .ok d :=
  read_of_decode (fits_of_conforms h hs) (decode_tree h hs)

/-- A record is read from the text of any fields that spell it out. -/
theorem read_render_of_spells (value : String → Datum) (hs : (Schema.record name fields).Lawful)
    (hvalue : ∀ f ∈ fields, f.2.Conforms (value f.1.name)) (h : Spells fields value ds) :
    read (.record name fields) (render (.record ds)) = .ok (.record (kept value fields)) := by
  cases hs with
  | record hnames hrules hfields =>
    refine read_of_decode (fits_of_spells h fun f hf => ?_) (decode_record hnames (fun f hf => ?_) h)
    · exact fits_of_conforms (hvalue f hf) (hfields f hf)
    · exact decode_tree (hvalue f hf) (hfields f hf)

theorem conforms_of_read {text : String} (hs : s.Lawful) (h : read s text = .ok d) :
    Conforms s d := by
  unfold read at h
  simp only at h
  obtain ⟨e, he, h⟩ := bind_eq_ok_iff.1 h
  split at h
  · cases h
    exact conforms_of_decode _ hs he
  · cases h

end Teller.Json

import Teller.Proofs.Except
import Teller.Schema

/-!
# Data of a schema

`Schema.Conforms` says which data have the shape of a schema. A record has a value for each of its
fields, and consists of those that its rules keep. A schema is `Lawful` if its defaults have the
shape of their fields, and if a field that may be left out is taken to be without a value when it is
missing; then a record can be assembled from any fields that spell it out, `Spells.assemble`, and
whatever is assembled conforms, `keeps_of_assemble`.
-/

namespace Teller

/-- What a record keeps of the value of a field. -/
def FieldRule.keep (rule : FieldRule) (d : Datum) : List (String × Datum) :=
  match d with
  | .absent => if rule.dropsAbsent then [] else [(rule.name, .absent)]
  | d => [(rule.name, d)]

/-- What a record keeps of the values of its fields. -/
def Schema.kept (value : String → Datum) (fields : List (FieldRule × Schema)) :
    List (String × Datum) :=
  fields.flatMap fun f => f.1.keep (value f.1.name)

/-- The data have the shape of the schema. -/
inductive Schema.Conforms : Schema → Datum → Prop where
  | bool (b : Bool) : Conforms .bool (.bool b)
  | int {range : IntRange} {n : Int} (h : range.Holds n) : Conforms (.int range) (.int n)
  | text (s : String) : Conforms .text (.text s)
  | time {t : Time.Instant} (h : t.Valid) : Conforms .time (.time t)
  | choice {words : List String} {s : String} (h : s ∈ words) : Conforms (.choice words) (.text s)
  | absent (s : Schema) : Conforms (.optional s) .absent
  | present {s : Schema} {d : Datum} (h : Conforms s d) : Conforms (.optional s) d
  | record {name : String} {fields : List (FieldRule × Schema)} (value : String → Datum)
      (h : ∀ f ∈ fields, Conforms f.2 (value f.1.name)) :
      Conforms (.record name fields) (.record (kept value fields))

/-- What a rule says about a field of this schema is consistent. -/
structure FieldRule.Lawful (rule : FieldRule) (s : Schema) : Prop where
  ifMissing : ∀ d, rule.ifMissing = some d → s.Conforms d
  /-- A default is kept. -/
  ifShort : ∀ d, rule.ifShort = some d → s.Conforms d ∧ rule.keep d = [(rule.name, d)]
  ifDropped : rule.dropsAbsent → rule.ifMissing = some .absent

/-- Numbers fit in 64 bits, signed or not, nothing is optional twice, and the rules of a record are
consistent and about different fields. -/
inductive Schema.Lawful : Schema → Prop where
  | bool : Lawful .bool
  | int {range : IntRange} (hleast : -9223372036854775808 ≤ range.least)
      (hgreatest : range.greatest < 18446744073709551616) : Lawful (.int range)
  | text : Lawful .text
  | time : Lawful .time
  | choice (words : List String) : Lawful (.choice words)
  | optional {s : Schema} (h : Lawful s) (hs : ∀ t, s ≠ .optional t) : Lawful (.optional s)
  | record {name : String} {fields : List (FieldRule × Schema)}
      (hnames : (fields.map fun f => f.1.name).Nodup) (hrules : ∀ f ∈ fields, f.1.Lawful f.2)
      (hfields : ∀ f ∈ fields, Lawful f.2) : Lawful (.record name fields)

namespace FieldRule

variable {name : String} {rule : FieldRule} {s : Schema} {d : Datum}

theorem lawful_required (name : String) (s : Schema) : (required name).Lawful s :=
  ⟨nofun, nofun, nofun⟩

theorem lawful_omittable (name : String) (s : Schema) : (omittable name).Lawful (.optional s) where
  ifMissing d h := by
    cases h
    exact .absent s
  ifShort := nofun
  ifDropped _ := rfl

theorem lawful_withDefault (h : s.Conforms d) : (withDefault name d).Lawful s where
  ifMissing e he := by
    cases he
    exact h
  ifShort e he := by
    cases he
    refine ⟨h, ?_⟩
    cases d <;> rfl
  ifDropped := nofun

theorem keep_cases (rule : FieldRule) (d : Datum) :
    rule.keep d = [(rule.name, d)] ∨ (rule.keep d = [] ∧ d = .absent ∧ rule.dropsAbsent) := by
  cases d with
  | absent =>
    by_cases h : rule.dropsAbsent
    · exact .inr ⟨if_pos h, rfl, h⟩
    · exact .inl (if_neg h)
  | _ => exact .inl rfl

theorem keep_of_ne (h : d ≠ .absent) : rule.keep d = [(rule.name, d)] :=
  (rule.keep_cases d).resolve_right fun hdropped => h hdropped.2.1

theorem eq_of_mem_keep {p : String × Datum} (h : p ∈ rule.keep d) : p = (rule.name, d) := by
  rcases rule.keep_cases d with hkeep | ⟨hkeep, -⟩
  · rwa [hkeep, List.mem_singleton] at h
  · simp [hkeep] at h

/-- A field that is dropped has its value again when it is missing. -/
theorem Lawful.ifMissing_of_keep (h : rule.Lawful s) (hd : rule.keep d = []) :
    rule.ifMissing = some d := by
  rcases rule.keep_cases d with hkeep | ⟨-, rfl, hdrop⟩
  · simp [hkeep] at hd
  · exact h.ifDropped hdrop

end FieldRule

namespace Schema

variable {rule : FieldRule} {s : Schema} {d : Datum} {name : String}
  {fields rest : List (FieldRule × Schema)} {ds found : List (String × Datum)}
  {value value' : String → Datum}

theorem Conforms.of_inner (h : s.inner.Conforms d) : s.Conforms d := by
  cases s with
  | optional s => exact .present h
  | _ => exact h

theorem Lawful.inner (h : s.Lawful) : s.inner.Lawful := by
  cases h with
  | optional h _ => exact h
  | bool => exact .bool
  | int hleast hgreatest => exact .int hleast hgreatest
  | text => exact .text
  | time => exact .time
  | choice words => exact .choice words
  | record hnames hrules hfields => exact .record hnames hrules hfields

/-! ### What records keep -/

theorem kept_cons :
    kept value ((rule, s) :: rest) = rule.keep (value rule.name) ++ kept value rest :=
  List.flatMap_cons ..

theorem kept_congr (h : ∀ f ∈ fields, value f.1.name = value' f.1.name) :
    kept value fields = kept value' fields := by
  rw [kept, kept, List.flatMap_def, List.flatMap_def,
    List.map_congr_left fun f hf => congrArg f.1.keep (h f hf)]

/-- Only names of fields are kept, each at most once. -/
theorem names_kept_sublist :
    ((kept value fields).map Prod.fst).Sublist (fields.map fun f => f.1.name) := by
  induction fields with
  | nil => exact .slnil
  | cons f rest ih =>
    obtain ⟨rule, s⟩ := f
    rw [kept_cons, List.map_append, List.map_cons]
    rcases rule.keep_cases (value rule.name) with h | ⟨h, -⟩ <;> rw [h]
    · exact ih.cons_cons rule.name
    · exact ih.cons rule.name

theorem field?_of_mem {f : FieldRule × Schema} (hnames : (fields.map fun f => f.1.name).Nodup)
    (hf : f ∈ fields) : field? f.1.name fields = some f := by
  induction fields with
  | nil => cases hf
  | cons g rest ih =>
    rw [List.map_cons, List.nodup_cons] at hnames
    rcases List.mem_cons.1 hf with rfl | hf
    · simp [field?]
    · have hne : g.1.name ≠ f.1.name := fun h => hnames.1 (h ▸ List.mem_map_of_mem hf)
      rw [field?, List.find?_cons_of_neg (by simpa using hne)]
      exact ih hnames.2 hf

/-- These are the fields of a record of the right shape. -/
def Keeps (fields : List (FieldRule × Schema)) (ds : List (String × Datum)) : Prop :=
  ∃ value, (∀ f ∈ fields, f.2.Conforms (value f.1.name)) ∧ kept value fields = ds

theorem Keeps.conforms (h : Keeps fields ds) : Conforms (.record name fields) (.record ds) := by
  obtain ⟨value, hvalue, rfl⟩ := h
  exact .record value hvalue

theorem Keeps.nil : Keeps [] [] :=
  ⟨fun _ => .absent, nofun, rfl⟩

theorem Keeps.cons (hname : rule.name ∉ rest.map fun f => f.1.name) (hd : s.Conforms d)
    (h : Keeps rest ds) : Keeps ((rule, s) :: rest) (rule.keep d ++ ds) := by
  obtain ⟨value, hvalue, rfl⟩ := h
  have hold : ∀ f ∈ rest, (if f.1.name = rule.name then d else value f.1.name) =
      value f.1.name := by
    intro f hf
    exact if_neg fun h => hname (List.mem_map.2 ⟨f, hf, h⟩)
  refine ⟨fun n => if n = rule.name then d else value n, List.forall_mem_cons.2 ⟨?_, ?_⟩, ?_⟩
  · simpa using hd
  · intro f hf
    simp only [hold f hf]
    exact hvalue f hf
  · rw [kept_cons, if_pos rfl, kept_congr hold]

/-! ### Assembling records -/

theorem assemble_cons_eq_ok :
    assemble found ((rule, s) :: rest) = .ok ds ↔
      ∃ d, (found.lookup rule.name).or rule.ifMissing = some d ∧
        ∃ es, assemble found rest = .ok es ∧ rule.keep d ++ es = ds := by
  rw [assemble]
  cases (found.lookup rule.name).or rule.ifMissing with
  | none => simp
  | some d =>
    cases assemble found rest with
    | error e => simp
    | ok es =>
      cases d with
      | absent => by_cases hdrop : rule.dropsAbsent <;> simp [FieldRule.keep, hdrop]
      | _ => simp [FieldRule.keep]

/-- What is assembled from values of the right shape has the right shape. -/
theorem keeps_of_assemble (hnames : (fields.map fun f => f.1.name).Nodup)
    (hrules : ∀ f ∈ fields, f.1.Lawful f.2)
    (hfound : ∀ f ∈ fields, ∀ d, found.lookup f.1.name = some d → f.2.Conforms d)
    (h : assemble found fields = .ok ds) : Keeps fields ds := by
  induction fields generalizing ds with
  | nil =>
    cases h
    exact .nil
  | cons f rest ih =>
    obtain ⟨rule, s⟩ := f
    rw [List.map_cons, List.nodup_cons] at hnames
    rw [List.forall_mem_cons] at hrules hfound
    obtain ⟨d, hd, es, hes, rfl⟩ := assemble_cons_eq_ok.1 h
    refine .cons hnames.1 ?_ (ih hnames.2 hrules.2 hfound.2 hes)
    rcases Option.or_eq_some_iff.1 hd with hd | ⟨-, hd⟩
    · exact hfound.1 d hd
    · exact hrules.1.ifMissing d hd

theorem assemble_kept
    (h : ∀ f ∈ fields, (found.lookup f.1.name).or f.1.ifMissing = some (value f.1.name)) :
    assemble found fields = .ok (kept value fields) := by
  induction fields with
  | nil => rfl
  | cons f rest ih =>
    obtain ⟨rule, s⟩ := f
    rw [List.forall_mem_cons] at h
    exact assemble_cons_eq_ok.2 ⟨_, h.1, _, ih h.2, kept_cons.symm⟩

theorem lookup_eq_some_of_mem {n : String} (hnames : (ds.map Prod.fst).Nodup) (h : (n, d) ∈ ds) :
    ds.lookup n = some d := by
  induction ds with
  | nil => cases h
  | cons e ds ih =>
    obtain ⟨m, e⟩ := e
    rw [List.map_cons, List.nodup_cons] at hnames
    rcases List.mem_cons.1 h with h | h
    · cases h
      exact List.lookup_cons_self
    · have hne : n ≠ m := fun hnm => hnames.1 (List.mem_map.2 ⟨_, h, hnm⟩)
      rw [List.lookup_cons, beq_false_of_ne hne]
      exact ih hnames.2 h

/-- The fields spell the values of a record out, in any order: each is there with its value, or is left
out and has it by default. -/
structure Spells (fields : List (FieldRule × Schema)) (value : String → Datum)
    (ds : List (String × Datum)) : Prop where
  names : (ds.map Prod.fst).Nodup
  known : ∀ p ∈ ds, ∃ f ∈ fields, p = (f.1.name, value f.1.name)
  missing : ∀ f ∈ fields, f.1.name ∉ ds.map Prod.fst → f.1.ifMissing = some (value f.1.name)

/-- What a record keeps spells its values out. -/
theorem spells_kept (hnames : (fields.map fun f => f.1.name).Nodup)
    (hrules : ∀ f ∈ fields, f.1.Lawful f.2) : Spells fields value (kept value fields) where
  names := hnames.sublist names_kept_sublist
  known p hp := by
    obtain ⟨f, hf, hp⟩ := List.mem_flatMap.1 hp
    exact ⟨f, hf, FieldRule.eq_of_mem_keep hp⟩
  missing f hf hnot := by
    rcases f.1.keep_cases (value f.1.name) with hkeep | ⟨hkeep, -⟩
    · have hmem : (f.1.name, value f.1.name) ∈ kept value fields :=
        List.mem_flatMap.2 ⟨f, hf, by simp [hkeep]⟩
      exact absurd (List.mem_map_of_mem hmem) hnot
    · exact (hrules f hf).ifMissing_of_keep hkeep

/-- A record is assembled from fields that spell it out, in whichever order they are found. -/
theorem Spells.assemble (h : Spells fields value ds) (hperm : found.Perm ds) :
    assemble found fields = .ok (kept value fields) := by
  have hnames : (found.map Prod.fst).Nodup := (hperm.map Prod.fst).nodup_iff.2 h.names
  refine assemble_kept fun f hf => ?_
  by_cases hname : f.1.name ∈ found.map Prod.fst
  · obtain ⟨p, hp, hpname⟩ := List.mem_map.1 hname
    obtain ⟨g, -, rfl⟩ := h.known p (hperm.mem_iff.1 hp)
    rw [← hpname, lookup_eq_some_of_mem hnames hp, Option.some_or]
  · have hnone : found.lookup f.1.name = none := by
      rw [List.lookup_eq_none_iff]
      intro p hp
      exact bne_iff_ne.2 fun he => hname (List.mem_map.2 ⟨p, hp, he.symm⟩)
    rw [hnone, Option.none_or]
    exact h.missing f hf fun hmem => hname ((hperm.map Prod.fst).mem_iff.2 hmem)

end Schema

end Teller

/-!
# Tables

Rows by number, in ascending order of number. The order is a field of the type, so a table is
determined by what `get?` answers (`Table.ext_get?`), and every operation is described by one
equation through `get?`.
-/

namespace Teller

/-- Rows by number, in ascending order. -/
structure Table (α : Type) where
  rows : List (Int × α)
  ascending : rows.Pairwise (fun a b => a.1 < b.1)

namespace Table

variable {α : Type}

/-! ### Lists of numbered rows -/

def find? (id : Int) : List (Int × α) → Option α
  | [] => none
  | (k, x) :: rest => if k = id then some x else find? id rest

/-- Puts a row in its place; a row of the same number gives way. -/
def place (id : Int) (x : α) : List (Int × α) → List (Int × α)
  | [] => [(id, x)]
  | (k, y) :: rest =>
    if id < k then (id, x) :: (k, y) :: rest
    else if id = k then (id, x) :: rest
    else (k, y) :: place id x rest

theorem mem_place {id : Int} {x : α} {a : Int × α} {l : List (Int × α)} (h : a ∈ place id x l) :
    a = (id, x) ∨ a ∈ l := by
  induction l with
  | nil => simp_all [place]
  | cons head rest ih =>
    obtain ⟨k, y⟩ := head
    unfold place at h
    split at h
    · simp_all
    · split at h
      · simp only [List.mem_cons] at h ⊢
        exact h.imp_right .inr
      · simp only [List.mem_cons] at h ⊢
        rcases h with h | h
        · exact .inr (.inl h)
        · exact (ih h).imp_right .inr

theorem pairwise_place (id : Int) (x : α) {l : List (Int × α)}
    (h : l.Pairwise (fun a b => a.1 < b.1)) :
    (place id x l).Pairwise (fun a b => a.1 < b.1) := by
  induction l with
  | nil => simp [place]
  | cons head rest ih =>
    obtain ⟨k, y⟩ := head
    obtain ⟨hk, hrest⟩ := List.pairwise_cons.1 h
    unfold place
    split
    · rename_i hlt
      refine List.pairwise_cons.2 ⟨fun a ha => ?_, h⟩
      rcases List.mem_cons.1 ha with rfl | ha
      · exact hlt
      · exact Int.lt_trans hlt (hk a ha)
    · split
      · rename_i heq
        exact List.pairwise_cons.2 ⟨fun a ha => by simpa [heq] using hk a ha, hrest⟩
      · rename_i hlt hne
        refine List.pairwise_cons.2 ⟨fun a ha => ?_, ih hrest⟩
        rcases mem_place ha with rfl | ha
        · show k < id
          omega
        · exact hk a ha

theorem find?_place (id j : Int) (x : α) (l : List (Int × α)) :
    find? j (place id x l) = if id = j then some x else find? j l := by
  induction l with
  | nil => simp [place, find?]
  | cons head rest ih =>
    obtain ⟨k, y⟩ := head
    unfold place
    split
    · simp [find?]
    · split
      · rename_i h
        subst h
        by_cases hj : id = j <;> simp [find?, hj]
      · rename_i hne
        simp only [find?, ih]
        by_cases hj : k = j
        · subst hj
          simp [hne]
        · simp [hj]

theorem find?_eq_none {l : List (Int × α)} {j : Int} (h : ∀ a ∈ l, j < a.1) :
    find? j l = none := by
  induction l with
  | nil => rfl
  | cons head rest ih =>
    obtain ⟨k, y⟩ := head
    have hk : j < k := h (k, y) (by simp)
    have hne : ¬ k = j := by omega
    simp only [find?, hne, if_false]
    exact ih fun a ha => h a (by simp [ha])

theorem find?_filter (id j : Int) (l : List (Int × α)) :
    find? j (l.filter (fun a => decide (a.1 ≠ id))) = if id = j then none else find? j l := by
  induction l with
  | nil => simp [find?]
  | cons head rest ih =>
    obtain ⟨k, y⟩ := head
    by_cases hk : k = id
    · subst hk
      simp only [List.filter, ne_eq, not_true, decide_false, ih, find?]
      by_cases hj : k = j <;> simp [hj]
    · simp only [List.filter, ne_eq, hk, not_false_eq_true, decide_true, find?, ih]
      by_cases hj : k = j
      · subst hj
        simp [Ne.symm hk]
      · simp [hj]

theorem mem_iff_find? {l : List (Int × α)} (h : l.Pairwise (fun a b => a.1 < b.1)) {k : Int}
    {x : α} : (k, x) ∈ l ↔ find? k l = some x := by
  induction l with
  | nil => simp [find?]
  | cons head rest ih =>
    obtain ⟨j, y⟩ := head
    obtain ⟨hj, hrest⟩ := List.pairwise_cons.1 h
    by_cases hk : j = k
    · subst hk
      simp only [List.mem_cons, Prod.mk.injEq, true_and, find?, if_true, Option.some.injEq]
      constructor
      · rintro (h | h)
        · exact h.symm
        · exact absurd (hj _ h) (by simp)
      · exact fun h => .inl h.symm
    · simp only [List.mem_cons, Prod.mk.injEq, Ne.symm hk, false_and, false_or, find?, hk, if_false]
      exact ih hrest

theorem eq_of_find? : ∀ {l m : List (Int × α)}, l.Pairwise (fun a b => a.1 < b.1) →
    m.Pairwise (fun a b => a.1 < b.1) → (∀ k, find? k l = find? k m) → l = m
  | [], [], _, _, _ => rfl
  | [], (k, y) :: _, _, _, h => by simpa [find?] using h k
  | (k, x) :: _, [], _, _, h => by simpa [find?] using h k
  | (k, x) :: l, (j, y) :: m, hl, hm, h => by
    obtain ⟨hk, hl'⟩ := List.pairwise_cons.1 hl
    obtain ⟨hj, hm'⟩ := List.pairwise_cons.1 hm
    have hkj : k = j := by
      rcases Int.lt_trichotomy k j with hlt | heq | hgt
      · have hnone : find? k ((j, y) :: m) = none := find?_eq_none fun a ha => by
          rcases List.mem_cons.1 ha with rfl | ha
          · exact hlt
          · exact Int.lt_trans hlt (hj a ha)
        have := h k
        rw [hnone] at this
        simp [find?] at this
      · exact heq
      · have hnone : find? j ((k, x) :: l) = none := find?_eq_none fun a ha => by
          rcases List.mem_cons.1 ha with rfl | ha
          · exact hgt
          · exact Int.lt_trans hgt (hk a ha)
        have := h j
        rw [hnone] at this
        simp [find?] at this
    subst hkj
    have hxy : x = y := by simpa [find?] using h k
    subst hxy
    refine congrArg _ (eq_of_find? hl' hm' fun i => ?_)
    by_cases hi : k = i
    · subst hi
      rw [find?_eq_none fun a ha => hk a ha, find?_eq_none fun a ha => hj a ha]
    · simpa [find?, hi] using h i

/-! ### Tables -/

def empty : Table α := ⟨[], .nil⟩

instance : Inhabited (Table α) := ⟨empty⟩

def get? (t : Table α) (id : Int) : Option α :=
  find? id t.rows

/-- The table with a row added, or exchanged for the one of the same number. -/
def put (t : Table α) (id : Int) (x : α) : Table α :=
  ⟨place id x t.rows, pairwise_place id x t.ascending⟩

/-- The table without the row of a number. -/
def erase (t : Table α) (id : Int) : Table α :=
  ⟨t.rows.filter (fun a => decide (a.1 ≠ id)), t.ascending.sublist List.filter_sublist⟩

/-- The rows in ascending order of number. -/
def values (t : Table α) : List α :=
  t.rows.map (·.2)

def size (t : Table α) : Nat :=
  t.rows.length

def contains (t : Table α) (id : Int) : Bool :=
  (t.get? id).isSome

@[simp] theorem get?_empty (j : Int) : (empty : Table α).get? j = none := rfl

@[simp] theorem get?_put (t : Table α) (id j : Int) (x : α) :
    (t.put id x).get? j = if id = j then some x else t.get? j :=
  find?_place id j x t.rows

@[simp] theorem get?_erase (t : Table α) (id j : Int) :
    (t.erase id).get? j = if id = j then none else t.get? j :=
  find?_filter id j t.rows

theorem mem_rows_iff (t : Table α) {k : Int} {x : α} : (k, x) ∈ t.rows ↔ t.get? k = some x :=
  mem_iff_find? t.ascending

/-- A table is determined by the rows it gives. -/
theorem ext_get? {s t : Table α} (h : ∀ k, s.get? k = t.get? k) : s = t := by
  obtain ⟨l, hl⟩ := s
  obtain ⟨m, hm⟩ := t
  have : l = m := eq_of_find? hl hm h
  subst this
  rfl

end Table

end Teller

import Mathlib.Data.List.Perm.Basic
import Mathlib.Data.List.Nodup
import Mathlib.Algebra.BigOperators.Group.List.Basic
import Mathlib.Algebra.Ring.Int.Defs
import Teller.Table

/-!
# Tables as collections of rows

What `Table.put` and `Table.erase` do to the rows as a collection: a row that is put in joins the
rows of the other numbers, and a row that is there is its number's one among them
(`values_put`, `values_erase`). Sums over the rows follow.
-/

namespace Teller.Table

variable {α β : Type} {t : Table α} {k : Int} {x : α}

/-! ### Look-up -/

theorem get?_put_self (t : Table α) (k : Int) (x : α) : (t.put k x).get? k = some x := by
  rw [get?_put, if_pos rfl]

theorem get?_put_of_ne {j : Int} (h : j ≠ k) (x : α) : (t.put k x).get? j = t.get? j := by
  rw [get?_put, if_neg h.symm]

theorem get?_erase_self (t : Table α) (k : Int) : (t.erase k).get? k = none := by
  rw [get?_erase, if_pos rfl]

theorem get?_erase_of_ne {j : Int} (h : j ≠ k) : (t.erase k).get? j = t.get? j := by
  rw [get?_erase, if_neg h.symm]

theorem get?_put_eq_some_iff {j : Int} {y : α} :
    (t.put k x).get? j = some y ↔ (j = k ∧ y = x) ∨ (j ≠ k ∧ t.get? j = some y) := by
  by_cases hj : j = k
  · subst hj
    simp [eq_comm]
  · simp [get?_put_of_ne hj, hj]

theorem get?_erase_eq_some_iff {j : Int} {y : α} :
    (t.erase k).get? j = some y ↔ j ≠ k ∧ t.get? j = some y := by
  by_cases hj : j = k
  · subst hj
    simp
  · simp [get?_erase_of_ne hj, hj]

/-! ### Membership -/

theorem rows_nodup (t : Table α) : t.rows.Nodup :=
  t.ascending.imp fun h => by rintro rfl; omega

theorem mem_values : x ∈ t.values ↔ ∃ k, t.get? k = some x := by
  simp only [values, List.mem_map, Prod.exists, exists_eq_right, mem_rows_iff]

theorem mem_values_of_get? (h : t.get? k = some x) : x ∈ t.values :=
  mem_values.2 ⟨k, h⟩

theorem values_eq_nil_iff : t.values = [] ↔ ∀ k, t.get? k = none := by
  refine ⟨fun h k => ?_, fun h => List.eq_nil_iff_forall_not_mem.2 fun x hx => ?_⟩
  · by_contra hk
    obtain ⟨x, hx⟩ := Option.ne_none_iff_exists'.1 hk
    have hmem := mem_values_of_get? hx
    rw [h] at hmem
    cases hmem
  · obtain ⟨k, hk⟩ := mem_values.1 hx
    cases (h k).symm.trans hk

theorem contains_iff : t.contains k = true ↔ ∃ x, t.get? k = some x := by
  rw [contains, Option.isSome_iff_exists]

theorem erase_of_get?_eq_none (h : t.get? k = none) : t.erase k = t :=
  ext_get? fun j => by
    rw [get?_erase]
    split
    · rename_i hj; rw [← hj, h]
    · rfl

theorem erase_put (t : Table α) (k : Int) (x : α) : (t.put k x).erase k = t.erase k :=
  ext_get? fun j => by
    rw [get?_erase, get?_erase, get?_put]
    split <;> rfl

theorem put_get?_self (h : t.get? k = some x) : t.put k x = t :=
  ext_get? fun j => by
    rw [get?_put]
    split
    · rename_i hj; rw [← hj, h]
    · rfl

theorem put_put_of_ne {j : Int} {y : α} (h : k ≠ j) : (t.put k x).put j y = (t.put j y).put k x :=
  ext_get? fun i => by
    simp only [get?_put]
    by_cases hk : k = i <;> by_cases hj : j = i <;> simp_all

/-! ### The rows up to their order -/

theorem rows_put (t : Table α) (k : Int) (x : α) : (t.put k x).rows.Perm ((k, x) :: (t.erase k).rows) := by
  have hk : (k, x) ∉ (t.erase k).rows := by simp [mem_rows_iff]
  refine (List.perm_ext_iff_of_nodup (rows_nodup _) (List.nodup_cons.2 ⟨hk, rows_nodup _⟩)).2 ?_
  rintro ⟨j, y⟩
  rw [mem_rows_iff, get?_put, List.mem_cons, mem_rows_iff, get?_erase]
  by_cases hj : k = j
  · subst hj; simp [eq_comm]
  · simp [hj, Ne.symm hj]

theorem values_put (t : Table α) (k : Int) (x : α) : (t.put k x).values.Perm (x :: (t.erase k).values) :=
  (rows_put t k x).map _

theorem values_erase (h : t.get? k = some x) : t.values.Perm (x :: (t.erase k).values) := by
  have := values_put t k x
  rwa [put_get?_self h] at this

theorem values_put_new (h : t.get? k = none) : (t.put k x).values.Perm (x :: t.values) := by
  have := values_put t k x
  rwa [erase_of_get?_eq_none h] at this

theorem size_put_new (h : t.get? k = none) : (t.put k x).size = t.size + 1 := by
  have := (rows_put t k x).length_eq
  rwa [erase_of_get?_eq_none h] at this

/-- No two rows have the same key, if their key is their number. -/
theorem nodup_map_values {key : α → Int} (h : ∀ k x, t.get? k = some x → key x = k) :
    (t.values.map key).Nodup := by
  have hkeys : t.values.map key = t.rows.map (·.1) := by
    rw [values, List.map_map]
    exact List.map_congr_left fun a ha => h a.1 a.2 (t.mem_rows_iff.1 ha)
  rw [hkeys]
  exact List.Pairwise.map _ (fun _ _ hlt => Int.ne_of_lt hlt) t.ascending

/-- Tables that have the same rows of a kind list them alike. -/
theorem filter_values_congr {s t : Table α} {P : α → Bool}
    (h : ∀ k x, P x = true → (s.get? k = some x ↔ t.get? k = some x)) :
    s.values.filter P = t.values.filter P := by
  have hrows : s.rows.filter (fun a => P a.2) = t.rows.filter fun a => P a.2 := by
    have hperm : (s.rows.filter fun a => P a.2).Perm (t.rows.filter fun a => P a.2) := by
      refine (List.perm_ext_iff_of_nodup (s.rows_nodup.filter _) (t.rows_nodup.filter _)).2 fun a => ?_
      rw [List.mem_filter, List.mem_filter, mem_rows_iff, mem_rows_iff]
      exact and_congr_left fun ha => h a.1 a.2 ha
    refine hperm.eq_of_pairwise ?_ (s.ascending.filter _) (t.ascending.filter _)
    intro a b _ _ hab hba
    exact absurd (Int.lt_trans hab hba) (Int.lt_irrefl _)
  rw [values, values, List.filter_map, List.filter_map]
  exact congrArg (List.map (·.2)) hrows

/-! ### Sums over the rows -/

theorem sum_put (f : α → Int) (t : Table α) (k : Int) (x : α) :
    ((t.put k x).values.map f).sum = f x + ((t.erase k).values.map f).sum := by
  rw [((values_put t k x).map f).sum_eq, List.map_cons, List.sum_cons]

theorem sum_erase (f : α → Int) (h : t.get? k = some x) :
    (t.values.map f).sum = f x + ((t.erase k).values.map f).sum := by
  rw [((values_erase h).map f).sum_eq, List.map_cons, List.sum_cons]

theorem sum_put_new (f : α → Int) (h : t.get? k = none) :
    ((t.put k x).values.map f).sum = f x + (t.values.map f).sum := by
  rw [sum_put, erase_of_get?_eq_none h]

/-- A row in the place of another changes a sum by the difference of the two. -/
theorem sum_put_old (f : α → Int) {y : α} (h : t.get? k = some y) :
    ((t.put k x).values.map f).sum = (t.values.map f).sum - f y + f x := by
  rw [sum_put, sum_erase f h]
  omega

/-! ### Rows put in one after the other -/

theorem get?_foldl_put_of_forall_ne (key : α → Int) {l : List α} (h : ∀ a ∈ l, key a ≠ k) (t : Table α) :
    (l.foldl (fun t a => t.put (key a) a) t).get? k = t.get? k := by
  induction l generalizing t with
  | nil => rfl
  | cons a l ih =>
    rw [List.foldl_cons, ih fun b hb => h b (List.mem_cons_of_mem _ hb), get?_put,
      if_neg (h a List.mem_cons_self)]

theorem get?_foldl_put_of_mem (key : α → Int) {l : List α} (hl : l.Pairwise fun a b => key a ≠ key b)
    {a : α} (ha : a ∈ l) (t : Table α) : (l.foldl (fun t a => t.put (key a) a) t).get? (key a) = some a := by
  induction l generalizing t with
  | nil => simp at ha
  | cons b l ih =>
    obtain ⟨hb, hl⟩ := List.pairwise_cons.1 hl
    rw [List.foldl_cons]
    rcases List.mem_cons.1 ha with rfl | ha
    · rw [get?_foldl_put_of_forall_ne key fun c hc => (hb c hc).symm, get?_put, if_pos rfl]
    · exact ih hl ha _

/-- A row of the result was put in or was there before. -/
theorem get?_foldl_put (key : α → Int) {l : List α} {t : Table α} {a : α}
    (h : (l.foldl (fun t a => t.put (key a) a) t).get? k = some a) :
    (a ∈ l ∧ key a = k) ∨ ((∀ b ∈ l, key b ≠ k) ∧ t.get? k = some a) := by
  induction l generalizing t with
  | nil => exact .inr ⟨by simp, h⟩
  | cons b l ih =>
    rcases ih h with ⟨ha, hk⟩ | ⟨hl, ht⟩
    · exact .inl ⟨List.mem_cons_of_mem _ ha, hk⟩
    · rw [get?_put] at ht
      split at ht
      · rename_i hb
        cases ht
        exact .inl ⟨List.mem_cons_self, hb⟩
      · rename_i hb
        exact .inr ⟨fun c hc => (List.mem_cons.1 hc).elim (fun e => e ▸ hb) (hl c), ht⟩

end Teller.Table

import Teller.Proofs.Bank.Primitive

/-!
# What a history says of balances

A history of answered primitives is read like an account statement: which accounts have been created and
with which balance (`created`), which units of work have been committed, what a unit has added to a
balance (`added`), and what all the committed ones have (`settled`). The lemmas say what one more answer
makes of these sums; most make nothing of them (`neutral_cons`).
-/

namespace Teller

/-- An adjustment that has been made in a unit of work. -/
structure Shift where
  unit : Int
  account : Int
  delta : Int

namespace Answered

def shift? : Answered → Option Shift
  | ⟨.adjust u k delta _, .account (.ok _), _⟩ => some ⟨u, k, delta⟩
  | _ => none

/-- The unit of work that has been committed. -/
def committed? : Answered → Option Int
  | ⟨.commit u, .done (.ok ()), _⟩ => some u
  | _ => none

/-- The account that has been created, and with which balance. -/
def created? : Answered → Option (Int × Int)
  | ⟨.openAccount _ _ balance _, .account (.ok a), _⟩ => some (a.id, balance)
  | _ => none

structure Neutral (e : Answered) : Prop where
  shift : e.shift? = none
  committed : e.committed? = none
  created : e.created? = none

theorem neutral_of_failed {p : Primitive} {x : Answer} {s : Store} (hx : x.Failed) : Neutral ⟨p, x, s⟩ := by
  obtain ⟨e, rfl | rfl | rfl | rfl | rfl⟩ := hx.cases
  all_goals exact ⟨by cases p <;> rfl, by cases p <;> rfl, by cases p <;> rfl⟩

end Answered

def commits (h : List Answered) : List Int :=
  h.filterMap Answered.committed?

/-- The accounts that have been created, each with its balance then, latest first. -/
def creations (h : List Answered) : List (Int × Int) :=
  h.filterMap Answered.created?

/-- The balance that an account was created with. -/
def created (h : List Answered) (k : Int) : Int :=
  ((creations h).lookup k).getD 0

/-- What a unit of work has added to a balance. -/
def added (h : List Answered) (u k : Int) : Int :=
  (((h.filterMap Answered.shift?).filter fun x => x.unit = u ∧ x.account = k).map (·.delta)).sum

/-- What units of work that have been committed have added to a balance. -/
def settled (h : List Answered) (k : Int) : Int :=
  (((h.filterMap Answered.shift?).filter fun x => x.account = k ∧ x.unit ∈ commits h).map (·.delta)).sum

section

variable {h : List Answered} {e : Answered} {s : Store} {u v k j delta balance : Int} {floor : Bool} {a : Account}

theorem neutral_cons (he : e.Neutral) : commits (e :: h) = commits h ∧ creations (e :: h) = creations h ∧
    added (e :: h) = added h ∧ settled (e :: h) = settled h := by
  have hcommits : commits (e :: h) = commits h := by
    simp [commits, he.committed]
  refine ⟨hcommits, ?_, ?_, ?_⟩
  · simp [creations, he.created]
  · funext u k
    simp [added, he.shift]
  · funext k
    simp [settled, he.shift, hcommits]

theorem added_adjust : added (⟨.adjust u k delta floor, .account (.ok a), s⟩ :: h) v j =
    (if u = v ∧ k = j then delta else 0) + added h v j := by
  by_cases hu : u = v ∧ k = j
  · simp [added, Answered.shift?, hu]
  · simp [added, Answered.shift?, hu]

theorem settled_adjust (hu : u ∉ commits h) :
    settled (⟨.adjust u k delta floor, .account (.ok a), s⟩ :: h) j = settled h j := by
  have hcommits : commits (⟨.adjust u k delta floor, .account (.ok a), s⟩ :: h) = commits h := rfl
  simp [settled, hcommits, Answered.shift?, hu]

/-- The additions of a unit of work are settled when it is committed. -/
theorem settled_commit (hu : u ∉ commits h) :
    settled (⟨.commit u, .done (.ok ()), s⟩ :: h) j = settled h j + added h u j := by
  have hsum : ∀ l : List Shift,
      ((l.filter fun x => x.account = j ∧ x.unit ∈ u :: commits h).map (·.delta)).sum =
        ((l.filter fun x => x.account = j ∧ x.unit ∈ commits h).map (·.delta)).sum +
          ((l.filter fun x => x.unit = u ∧ x.account = j).map (·.delta)).sum := by
    intro l
    induction l with
    | nil => rfl
    | cons x l ih =>
      by_cases hj : x.account = j
      · by_cases hx : x.unit = u
        · have hnot : x.unit ∉ commits h := hx ▸ hu
          simp [hj, hx, hu] at ih ⊢
          omega
        · by_cases hc : x.unit ∈ commits h
          · simp [hj, hx, hc] at ih ⊢
            omega
          · simp [hj, hx, hc] at ih ⊢
            omega
      · simp [hj] at ih ⊢
        omega
  exact hsum _

theorem creations_openAccount {owner : String} {currency : Currency} :
    (creations (⟨.openAccount u owner balance currency, .account (.ok a), s⟩ :: h)).lookup k =
      if k = a.id then some balance else (creations h).lookup k := by
  by_cases hk : k = a.id
  · simp [creations, Answered.created?, hk]
  · have hne : (k == a.id) = false := by simpa using hk
    simp [creations, Answered.created?, List.lookup_cons, hk, hne]

theorem created_openAccount {owner : String} {currency : Currency} :
    created (⟨.openAccount u owner balance currency, .account (.ok a), s⟩ :: h) k =
      if k = a.id then balance else created h k := by
  rw [created, creations_openAccount]
  split <;> rfl

theorem mem_creations (hk : ((creations h).lookup k).isSome = true) : (k, created h k) ∈ creations h := by
  obtain ⟨x, hx⟩ := Option.isSome_iff_exists.1 hk
  rw [created, hx]
  obtain ⟨l₁, l₂, heq, -⟩ := List.lookup_eq_some_iff.1 hx
  rw [heq]
  exact List.mem_append_right _ List.mem_cons_self

end

end Teller

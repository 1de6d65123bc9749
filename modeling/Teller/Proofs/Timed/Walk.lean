import Teller.Proofs.Timed.Only

/-!
# Walks

The steps that a computation takes while others do whatever they like in between: the state before a step
need not be the one after the step before it. So what holds of all walks of a computation holds among any
others. A walk of a bind is a walk of its first part and one of its second (`Walk.of_bind`).
-/

namespace Teller.Timed

variable {σ α β : Type} {P : σ → σ → Prop} {E : α → Prop} {m n k : Timed σ α} {l l' : List (σ × σ)} {s : σ}

/-- Steps of a computation, each with the states before and after it, and what is left to be done then. -/
inductive Walk : Timed σ α → List (σ × σ) → Timed σ α → Prop
  | nil {m : Timed σ α} : Walk m [] m
  | cons {m n k : Timed σ α} {s t : σ} {l : List (σ × σ)} (h : Step m s n t) (rest : Walk n l k) :
    Walk m ((s, t) :: l) k

theorem Walk.append (h : Walk m l n) (h' : Walk n l' k) : Walk m (l ++ l') k := by
  induction h with
  | nil => exact h'
  | cons hs _ ih => exact .cons hs (ih h')

theorem Path.walk {t : σ} (h : Path m s n t) : ∃ l, Walk m l n := by
  induction h with
  | refl => exact ⟨[], .nil⟩
  | head hs _ ih =>
    obtain ⟨l, hl⟩ := ih
    exact ⟨_, .cons hs hl⟩

/-- Whatever others have done, a computation can be brought to its end. -/
theorem Walk.complete [Inhabited σ] (h : Walk m l n) : ∃ l' a, Walk m (l ++ l') (.done a) := by
  obtain ⟨l', hl'⟩ := (path_run n default).walk
  exact ⟨l', _, h.append hl'⟩

theorem Walk.of_done {a : α} (h : Walk (.done a) l n) : l = [] ∧ n = .done a := by
  cases h with
  | nil => exact ⟨rfl, rfl⟩
  | cons hs => cases hs

theorem Walk.of_step {f : σ → α × σ} {a : α} (h : Walk (step f) l (.done a)) : ∃ s, l = [(s, (f s).2)] ∧ a = (f s).1 := by
  cases h with
  | cons hs rest =>
    cases hs
    obtain ⟨rfl, ha⟩ := rest.of_done
    exact ⟨_, rfl, Timed.done.inj ha⟩

theorem Walk.of_bind {f : α → Timed σ β} {x : β} (h : Walk (m >>= f) l (.done x)) :
    ∃ l₁ l₂ a, l = l₁ ++ l₂ ∧ Walk m l₁ (.done a) ∧ Walk (f a) l₂ (.done x) := by
  induction m generalizing l with
  | done a => exact ⟨[], l, a, rfl, .nil, h⟩
  | act change next ih =>
    cases h with
    | cons hs rest =>
      cases hs
      obtain ⟨l₁, l₂, a, rfl, h₁, h₂⟩ := ih _ rest
      exact ⟨_ :: l₁, l₂, a, rfl, .cons .act h₁, h₂⟩
  | wait span ready change next late ihNext ihLate =>
    cases h with
    | cons hs rest =>
      cases hs with
      | ready hready d =>
        obtain ⟨l₁, l₂, a, rfl, h₁, h₂⟩ := ihNext _ d rest
        exact ⟨_ :: l₁, l₂, a, rfl, .cons (.ready hready d) h₁, h₂⟩
      | late d =>
        obtain ⟨l₁, l₂, a, rfl, h₁, h₂⟩ := ihLate d rest
        exact ⟨_ :: l₁, l₂, a, rfl, .cons (.late d) h₁, h₂⟩

/-! ### What every step does -/

theorem Only.walk (h : m.Only P E) (hrefl : ∀ s, P s s) (hw : Walk m l n) :
    (∀ s ∈ l, P s.1 s.2) ∧ n.Only P E := by
  induction hw with
  | nil => exact ⟨by simp, h⟩
  | cons hs _ ih =>
    cases hs with
    | act =>
      obtain ⟨hl, hn⟩ := ih (h _).2
      exact ⟨List.forall_mem_cons.2 ⟨(h _).1, hl⟩, hn⟩
    | ready hready d =>
      obtain ⟨hstep, hnext⟩ := h.1 _ hready
      obtain ⟨hl, hn⟩ := ih (hnext d)
      exact ⟨List.forall_mem_cons.2 ⟨hstep, hl⟩, hn⟩
    | late d =>
      obtain ⟨hl, hn⟩ := ih (h.2 d)
      exact ⟨List.forall_mem_cons.2 ⟨hrefl _, hl⟩, hn⟩

end Teller.Timed

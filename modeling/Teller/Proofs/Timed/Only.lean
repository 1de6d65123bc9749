import Teller.Proofs.Timed.Follows

/-!
# What a computation can do at all

`Timed.Only` says of which kind the steps of a computation are, and of which kind its results, in
whatever states it is carried out. Unlike `Timed.Follows` it takes nothing for granted, so it is checked
call by call; together they say more than each of them (`Follows.only`).
-/

namespace Teller.Timed

variable {σ γ α β : Type} {P P' : σ → σ → Prop} {E E' : α → Prop} {F : β → Prop} {m : Timed σ α}

/-- Every step changes the state as `P` says, and every result is as `E` says. -/
def Only (P : σ → σ → Prop) (E : α → Prop) : Timed σ α → Prop
  | .done a => E a
  | .act change next => ∀ s, P s (change s) ∧ (next s).Only P E
  | .wait _ ready change next late =>
    (∀ s, ready s = true → P s (change s) ∧ ∀ d, (next s d).Only P E) ∧ ∀ d, (late d).Only P E

theorem Only.mono (h : m.Only P E) (hP : ∀ s t, P s t → P' s t) (hE : ∀ a, E a → E' a) : m.Only P' E' := by
  induction m with
  | done a => exact hE a h
  | act change next ih => exact fun s => ⟨hP _ _ (h s).1, ih s (h s).2⟩
  | wait span ready change next late ihNext ihLate =>
    refine ⟨fun s hr => ?_, fun d => ihLate d (h.2 d)⟩
    obtain ⟨hstep, hnext⟩ := h.1 s hr
    exact ⟨hP _ _ hstep, fun d => ihNext s d (hnext d)⟩

/-- Nothing is said about what is done, only about what it comes to. -/
theorem only_value (m : Timed σ α) (h : ∀ a, E a) : m.Only (fun _ _ => True) E := by
  induction m with
  | done a => exact h a
  | act change next ih => exact fun s => ⟨trivial, ih s⟩
  | wait span ready change next late ihNext ihLate => exact ⟨fun s _ => ⟨trivial, ihNext s⟩, ihLate⟩

theorem only_bind {f : α → Timed σ β} :
    (m >>= f).Only P F ↔ m.Only P fun a => (f a).Only P F := by
  induction m with
  | done a => rfl
  | act change next ih => exact forall_congr' fun s => and_congr_right fun _ => ih s
  | wait span ready change next late ihNext ihLate =>
    refine and_congr (forall₂_congr fun s _ => and_congr_right fun _ => ?_) ?_
    · exact forall_congr' fun d => ihNext s d
    · exact forall_congr' fun d => ihLate d

/-- A limit adds a result, but no steps. -/
theorem Only.within {E : Option α → Prop} {limit : Time.Span} (h : m.Only P fun a => E (some a))
    (hcut : E none) : (m.within limit).Only P E := by
  induction m generalizing limit with
  | done a => exact h
  | act change next ih => exact fun s => ⟨(h s).1, ih s (h s).2⟩
  | wait span ready change next late ihNext ihLate =>
    refine ⟨fun s hr => ?_, fun d => ?_⟩
    · obtain ⟨hstep, hnext⟩ := h.1 s hr
      exact ⟨hstep, fun d => ihNext s d (hnext d)⟩
    · show Only P E (if span ≤ limit ∧ d ≤ limit then _ else _)
      split
      · exact ihLate d (h.2 d)
      · exact hcut

/-- What every step does is done by the run as a whole. -/
theorem Only.run (h : m.Only P E) (hrefl : ∀ s, P s s) (htrans : ∀ s t u, P s t → P t u → P s u) (s : σ) :
    P s (m.run s).state ∧ E (m.run s).value := by
  induction m generalizing s with
  | done a => exact ⟨hrefl s, h⟩
  | act change next ih =>
    obtain ⟨hstep, hnext⟩ := h s
    obtain ⟨hp, he⟩ := ih s hnext (change s)
    exact ⟨htrans _ _ _ hstep hp, he⟩
  | wait span ready change next late ihNext ihLate =>
    simp only [Timed.run]
    split
    · rename_i hready
      obtain ⟨hstep, hnext⟩ := h.1 s hready
      obtain ⟨hp, he⟩ := ihNext s .zero (hnext .zero) (change s)
      exact ⟨htrans _ _ _ hstep hp, he⟩
    · exact ihLate span (h.2 span) s

/-- What a computation does within its rules is, besides, what it can do at all. -/
theorem Follows.only {R : Rules σ γ} {Q : γ → α → σ → Prop} {g : γ} {s : σ} (h : m.Follows R Q g s)
    (hm : m.Only P E) :
    m.Follows { R with own := fun g s g' t => R.own g s g' t ∧ P s t } (fun g a s => Q g a s ∧ E a) g s := by
  induction m generalizing g s with
  | done a => exact ⟨h, hm⟩
  | act change next ih =>
    intro t ht
    obtain ⟨g', hown, hnext⟩ := h t ht
    obtain ⟨hstep, hm'⟩ := hm t
    exact ⟨g', ⟨hown, hstep⟩, ih t hnext hm'⟩
  | wait span ready change next late ihNext ihLate =>
    refine ⟨h.1, fun t ht => ⟨fun hr => ?_, fun d => ihLate d ((h.2 t ht).2 d) (hm.2 d)⟩⟩
    obtain ⟨g', hown, hnext⟩ := (h.2 t ht).1 hr
    obtain ⟨hstep, hm'⟩ := hm.1 t hr
    exact ⟨g', ⟨hown, hstep⟩, fun d => ihNext t d (hnext d) (hm' d)⟩

/-! ### Computations that never wait -/

def Prompt : Timed σ α → Prop
  | .done _ => True
  | .act _ next => ∀ s, (next s).Prompt
  | .wait _ _ _ _ _ => False

theorem Prompt.bind {f : α → Timed σ β} (h : m.Prompt) (hf : ∀ a, (f a).Prompt) : (m >>= f).Prompt := by
  induction m with
  | done a => exact hf a
  | act change next ih => exact fun s => ih s (h s)
  | wait => exact h.elim

/-- A computation that never waits can end only as its run does. -/
theorem Prompt.path {a : α} {s t : σ} (h : m.Prompt) (hp : Path m s (.done a) t) :
    a = (m.run s).value ∧ t = (m.run s).state := by
  induction m generalizing s with
  | done b =>
    cases hp with
    | refl => exact ⟨rfl, rfl⟩
    | head hstep => cases hstep
  | act change next ih =>
    cases hp with
    | head hstep rest =>
      cases hstep
      exact ih s (h s) rest
  | wait => exact h.elim

end Teller.Timed

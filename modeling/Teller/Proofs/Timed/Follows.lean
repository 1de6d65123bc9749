import Teller.Proofs.Timed.Step

/-!
# Computations among others

Several computations act on one state, a step of one between the steps of another. What each of them
does, and what it counts on the others for, is given by `Rules`, stage by stage. `Timed.Follows` says
that a computation keeps to its rules whatever the others do within theirs. It goes down the tree of
the computation, so it splits at every bind (`follows_bind`).
-/

namespace Teller

/-- What a computation may do and what it counts on, by the stage that it has reached. -/
structure Rules (σ γ : Type) where
  /-- What the others may do meanwhile. -/
  others : γ → σ → σ → Prop
  /-- What it may do in a step, and the stage that it reaches by that. -/
  own : γ → σ → γ → σ → Prop
  /-- It may be left alone here for good. -/
  idle : γ → Prop

/-- A stage and a state that a computation reaches from others by steps of its own. -/
def Rules.Reaches {σ γ : Type} (R : Rules σ γ) : γ × σ → γ × σ → Prop :=
  Relation.ReflTransGen fun x y => R.own x.1 x.2 y.1 y.2

namespace Timed

variable {σ γ α β : Type} {R : Rules σ γ} {P Q : γ → α → σ → Prop} {g : γ} {s t : σ}

/-- The computation keeps to the rules and ends as `Q` says. -/
def Follows (R : Rules σ γ) (Q : γ → α → σ → Prop) : Timed σ α → γ → σ → Prop
  | .done a, g, s => Q g a s
  | .act change next, g, s => ∀ t, R.others g s t →
    ∃ h, R.own g t h (change t) ∧ (next t).Follows R Q h (change t)
  | .wait _ ready change next late, g, s => R.idle g ∧ ∀ t, R.others g s t →
    (ready t = true →
      ∃ h, R.own g t h (change t) ∧ ∀ d, (next t d).Follows R Q h (change t)) ∧
    ∀ d, (late d).Follows R Q g t

namespace Follows

theorem mono {m : Timed σ α} (hPQ : ∀ g a s, P g a s → Q g a s) (h : m.Follows R P g s) :
    m.Follows R Q g s := by
  induction m generalizing g s with
  | done a => exact hPQ g a s h
  | act change next ih =>
    intro t ht
    obtain ⟨h', hown, hnext⟩ := h t ht
    exact ⟨h', hown, ih t hnext⟩
  | wait span ready change next late ihNext ihLate =>
    refine ⟨h.1, fun t ht => ⟨fun hr => ?_, fun d => ihLate d ((h.2 t ht).2 d)⟩⟩
    obtain ⟨h', hown, hnext⟩ := (h.2 t ht).1 hr
    exact ⟨h', hown, fun d => ihNext t d (hnext d)⟩

/-- What holds at first, and is kept by the others and by each step that the rules allow, may be counted on
under rules that say so. -/
theorem keeping {R' : Rules σ γ} {K : σ → Prop} {m : Timed σ α} (h : m.Follows R Q g s) (hs : K s)
    (hothers : ∀ {g s t}, K s → R'.others g s t → R.others g s t ∧ K t)
    (hown : ∀ {g s h t}, K s → R.own g s h t → R'.own g s h t ∧ K t)
    (hidle : ∀ g, R.idle g → R'.idle g) : m.Follows R' Q g s := by
  induction m generalizing g s with
  | done a => exact h
  | act change next ih =>
    intro t ht
    obtain ⟨ho, hk⟩ := hothers hs ht
    obtain ⟨h', hstep, hnext⟩ := h t ho
    obtain ⟨hstep, hk⟩ := hown hk hstep
    exact ⟨h', hstep, ih t hnext hk⟩
  | wait span ready change next late ihNext ihLate =>
    refine ⟨hidle g h.1, fun t ht => ?_⟩
    obtain ⟨ho, hk⟩ := hothers hs ht
    refine ⟨fun hr => ?_, fun d => ihLate d ((h.2 t ho).2 d) hk⟩
    obtain ⟨h', hstep, hnext⟩ := (h.2 t ho).1 hr
    obtain ⟨hstep, hk⟩ := hown hk hstep
    exact ⟨h', hstep, fun d => ihNext t d (hnext d) hk⟩

/-- Rules of other stages do as well if they allow each step at stages that go together. -/
theorem simulate {δ : Type} {R' : Rules σ δ} {S : γ → δ → Prop} {m : Timed σ α} {d : δ}
    (hothers : ∀ {g d s t}, S g d → R'.others d s t → R.others g s t)
    (hown : ∀ {g d s h t}, S g d → R.own g s h t → ∃ d', R'.own d s d' t ∧ S h d')
    (hidle : ∀ {g d}, S g d → R.idle g → R'.idle d) (h : m.Follows R Q g s) (hd : S g d) :
    m.Follows R' (fun d a s => ∃ g, S g d ∧ Q g a s) d s := by
  induction m generalizing g d s with
  | done a => exact ⟨g, hd, h⟩
  | act change next ih =>
    intro t ht
    obtain ⟨h', hstep, hnext⟩ := h t (hothers hd ht)
    obtain ⟨d', hstep', hd'⟩ := hown hd hstep
    exact ⟨d', hstep', ih t hnext hd'⟩
  | wait span ready change next late ihNext ihLate =>
    refine ⟨hidle hd h.1, fun t ht => ?_⟩
    obtain ⟨hready, hlate⟩ := h.2 t (hothers hd ht)
    refine ⟨fun hr => ?_, fun e => ihLate e (hlate e) hd⟩
    obtain ⟨h', hstep, hnext⟩ := hready hr
    obtain ⟨d', hstep', hd'⟩ := hown hd hstep
    exact ⟨d', hstep', fun e => ihNext t e (hnext e) hd'⟩

/-- Where a computation may be left alone matters only in its waits. -/
theorem idle_mono {m : Timed σ α} {p q : γ → Prop} (hpq : ∀ g, p g → q g)
    (h : m.Follows { R with idle := p } Q g s) : m.Follows { R with idle := q } Q g s := by
  exact h.keeping (K := fun _ => True) trivial (fun _ ht => ⟨ht, trivial⟩)
    (fun _ hown => ⟨hown, trivial⟩) hpq

/-- What others do before the next step makes no difference. -/
theorem others {m : Timed σ α} (htrans : ∀ g s t u, R.others g s t → R.others g t u → R.others g s u)
    (hQ : ∀ g a s t, Q g a s → R.others g s t → Q g a t) (h : m.Follows R Q g s)
    (hs : R.others g s t) : m.Follows R Q g t := by
  cases m with
  | done a => exact hQ g a s t h hs
  | act change next => exact fun u hu => h u (htrans g s t u hs hu)
  | wait span ready change next late => exact ⟨h.1, fun u hu => h.2 u (htrans g s t u hs hu)⟩

/-- A limit may leave the computation in any of its waits. -/
theorem within {m : Timed σ α} {Q : γ → Option α → σ → Prop} {limit : Time.Span}
    (hcut : ∀ g s, R.idle g → Q g none s) (h : m.Follows R (fun g a s => Q g (some a) s) g s) :
    (m.within limit).Follows R Q g s := by
  induction m generalizing limit g s with
  | done a => exact h
  | act change next ih =>
    intro t ht
    obtain ⟨h', hown, hnext⟩ := h t ht
    exact ⟨h', hown, ih t hnext⟩
  | wait span ready change next late ihNext ihLate =>
    refine ⟨h.1, fun t ht => ⟨fun hr => ?_, fun d => ?_⟩⟩
    · obtain ⟨h', hown, hnext⟩ := (h.2 t ht).1 hr
      exact ⟨h', hown, fun d => ihNext t d (hnext d)⟩
    · show Follows R Q (if span ≤ limit ∧ d ≤ limit then _ else _) g t
      split
      · exact ihLate d ((h.2 t ht).2 d)
      · exact hcut g t h.1

end Follows

theorem follows_bind {Q : γ → β → σ → Prop} {m : Timed σ α} {f : α → Timed σ β} :
    (m >>= f).Follows R Q g s ↔ m.Follows R (fun g a s => (f a).Follows R Q g s) g s := by
  induction m generalizing g s with
  | done a => rfl
  | act change next ih =>
    exact forall₂_congr fun t _ => exists_congr fun h' => and_congr_right fun _ => ih t
  | wait span ready change next late ihNext ihLate =>
    refine and_congr_right fun _ => forall₂_congr fun t _ => and_congr
      (forall_congr' fun _ => exists_congr fun h' => and_congr_right fun _ =>
        forall_congr' fun d => ihNext t d) (forall_congr' fun d => ihLate d)

/-! ### Steps -/

/-- A step of the computation keeps to the rules, or it only lets time go by. -/
theorem Follows.step {m n : Timed σ α} (h : m.Follows R Q g s) (hs : R.others g s s)
    (hstep : Step m s n t) :
    (∃ g', R.own g s g' t ∧ n.Follows R Q g' t) ∨ t = s ∧ n.Follows R Q g t := by
  cases hstep with
  | act => exact .inl (h s hs)
  | ready hready d =>
    obtain ⟨g', hown, hnext⟩ := (h.2 s hs).1 hready
    exact .inl ⟨g', hown, hnext d⟩
  | late d => exact .inr ⟨rfl, (h.2 s hs).2 d⟩

/-- A computation that nobody interferes with keeps to its rules all along. -/
theorem Follows.path {J : σ → Prop} (hrefl : ∀ g s, J s → R.others g s s)
    (hown : ∀ g s h t, J s → R.own g s h t → J t) {m n : Timed σ α} (hp : Path m s n t)
    (h : m.Follows R Q g s) (hs : J s) :
    ∃ g', n.Follows R Q g' t ∧ R.Reaches (g, s) (g', t) ∧ J t := by
  induction hp generalizing g with
  | refl => exact ⟨g, h, .refl, hs⟩
  | head hstep rest ih =>
    rcases h.step (hrefl g _ hs) hstep with ⟨g', ho, hnext⟩ | ⟨rfl, hnext⟩
    · obtain ⟨g'', hf, hr, ht⟩ := ih hnext (hown _ _ _ _ hs ho)
      exact ⟨g'', hf, .head ho hr, ht⟩
    · exact ih hnext hs

end Timed

end Teller

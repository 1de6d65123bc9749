import Mathlib.Data.List.Forall2
import Teller.Bank.Basic
import Teller.Proofs.Timed.Step

/-!
# The same call in two states

Two statements about two runs of one computation, both carried through it one bind after the other: that it comes
to the same value (`Timed.Blind`), and that besides it takes the same course, pause by pause (`Timed.Lockstep`). What
goes in lockstep does so under a limit as well.
-/

namespace Teller

/-- In states that are related, the computation comes to the same value, and leaves related states behind. -/
def Timed.Blind {σ α : Type} (R : σ → σ → Prop) (Q : α → σ → σ → Prop) (m : Timed σ α) : Prop :=
  ∀ s t, R s t → (m.run s).value = (m.run t).value ∧ Q (m.run s).value (m.run s).state (m.run t).state

/-- Nothing is known of two states. -/
def Timed.any {σ α : Type} (_ : α) (_ _ : σ) : Prop :=
  True

namespace Timed.Blind

variable {σ α β : Type} {R R' : σ → σ → Prop} {Q Q' : α → σ → σ → Prop} {P : β → σ → σ → Prop} {m : Timed σ α}

theorem done {a : α} (h : ∀ s t, R s t → Q a s t) : (Timed.done a).Blind R Q :=
  fun s t hst => ⟨rfl, h s t hst⟩

theorem mono (h : m.Blind R Q) (hR : ∀ s t, R' s t → R s t) (hQ : ∀ a s t, Q a s t → Q' a s t) :
    m.Blind R' Q' := by
  intro s t hst
  obtain ⟨hvalue, hpost⟩ := h s t (hR s t hst)
  exact ⟨hvalue, hQ _ _ _ hpost⟩

theorem bind {f : α → Timed σ β} (h : m.Blind R Q) (hf : ∀ a, (f a).Blind (Q a) P) : (m >>= f).Blind R P := by
  intro s t hst
  obtain ⟨hvalue, hpost⟩ := h s t hst
  rw [Timed.run_bind, Timed.run_bind, ← hvalue]
  exact hf _ _ _ hpost

/-- What comes to nothing gives nothing away. -/
theorem unit (m : Timed σ Unit) : m.Blind R Timed.any :=
  fun _ _ _ => ⟨rfl, trivial⟩

end Timed.Blind

/-! ### In lockstep -/

/-- The same pauses and the same value, in states that are related throughout. -/
structure Trace.Alike {σ α : Type} (R : σ → σ → Prop) (x y : Trace σ α) : Prop where
  pauses : List.Forall₂ (fun p q => p.1 = q.1 ∧ R p.2 q.2) x.pauses y.pauses
  value : x.value = y.value
  state : R x.state y.state

def Timed.Lockstep {σ α : Type} (R : σ → σ → Prop) (m : Timed σ α) : Prop :=
  ∀ s t, R s t → (m.run s).Alike R (m.run t)

namespace Trace

variable {σ : Type} {R : σ → σ → Prop} {ps qs : List (Time.Span × σ)}

theorem elapsed_congr (h : List.Forall₂ (fun p q => p.1 = q.1 ∧ R p.2 q.2) ps qs) : elapsed ps = elapsed qs := by
  induction h with
  | nil => rfl
  | @cons p q ps qs hpq _ ih =>
    show p.1 + elapsed ps = q.1 + elapsed qs
    rw [hpq.1, ih]

/-- Pauses that are alike are cut at the same moment. -/
theorem cut?_congr (h : List.Forall₂ (fun p q => p.1 = q.1 ∧ R p.2 q.2) ps qs) (limit : Time.Span) :
    cut? limit ps = none ∧ cut? limit qs = none ∨ ∃ ps' qs' s t, cut? limit ps = some (ps', s) ∧
      cut? limit qs = some (qs', t) ∧ List.Forall₂ (fun p q => p.1 = q.1 ∧ R p.2 q.2) ps' qs' ∧ R s t := by
  induction h generalizing limit with
  | nil => exact .inl ⟨rfl, rfl⟩
  | @cons p q ps qs hpq _ ih =>
    obtain ⟨d, s⟩ := p
    obtain ⟨d', t⟩ := q
    obtain ⟨rfl, hst⟩ := hpq
    unfold cut?
    by_cases hd : d ≤ limit
    · rw [if_pos hd, if_pos hd]
      rcases ih (limit - d) with ⟨hps, hqs⟩ | ⟨ps', qs', s', t', hps, hqs, hall, hst'⟩
      · exact .inl ⟨by rw [hps], by rw [hqs]⟩
      · exact .inr ⟨(d, s) :: ps', (d, t) :: qs', s', t', by rw [hps], by rw [hqs], .cons ⟨rfl, hst⟩ hall, hst'⟩
    · rw [if_neg hd, if_neg hd]
      exact .inr ⟨_, _, s, t, rfl, rfl, .cons ⟨rfl, hst⟩ .nil, hst⟩

end Trace

namespace Timed.Lockstep

variable {σ α β : Type} {R : σ → σ → Prop} {m : Timed σ α}

theorem done (a : α) : (Timed.done a).Lockstep R :=
  fun _ _ hst => ⟨.nil, rfl, hst⟩

theorem bind {f : α → Timed σ β} (h : m.Lockstep R) (hf : ∀ a, (f a).Lockstep R) : (m >>= f).Lockstep R := by
  intro s t hst
  have hm := h s t hst
  have hrest := hf (m.run s).value _ _ hm.state
  rw [Timed.run_bind, Timed.run_bind, ← hm.value]
  exact ⟨List.rel_append hm.pauses hrest.pauses, hrest.value, hrest.state⟩

theorem sleep (d : Time.Span) : (Timed.sleep d : Timed σ Unit).Lockstep R :=
  fun _ _ hst => ⟨.cons ⟨rfl, hst⟩ .nil, rfl, hst⟩

/-- A limit stops both at the same moment, or neither. -/
theorem within (h : m.Lockstep R) (limit : Time.Span) : (m.within limit).Lockstep R := by
  intro s t hst
  have hm := h s t hst
  rw [Timed.run_within, Timed.run_within]
  rcases Trace.cut?_congr hm.pauses limit with ⟨hs, ht⟩ | ⟨ps, qs, s', t', hs, ht, hall, hst'⟩
  · rw [hs, ht]
    exact ⟨hm.pauses, congrArg some hm.value, hm.state⟩
  · rw [hs, ht]
    exact ⟨hall, rfl, hst'⟩

theorem blind (h : m.Lockstep R) : m.Blind R fun _ => R :=
  fun s t hst => ⟨(h s t hst).value, (h s t hst).state⟩

end Timed.Lockstep

/-! ### Attempts -/

namespace Attempt

variable {ε δ α β : Type} {R : Bank → Bank → Prop} {Q : Except ε α → Bank → Bank → Prop}
  {P : Except ε β → Bank → Bank → Prop}

theorem blind_bind {m : Attempt ε α} {f : α → Attempt ε β} (h : m.run.Blind R Q)
    (hf : ∀ a, (f a).run.Blind (Q (.ok a)) P) (hfail : ∀ e s t, Q (.error e) s t → P (.error e) s t) :
    (m >>= f).run.Blind R P := by
  rw [ExceptT.run_bind]
  refine h.bind fun r => ?_
  cases r with
  | ok a => exact hf a
  | error e => exact .done (hfail e)

theorem blind_sure_bind {m : Act α} {f : α → Attempt ε β} {Q : α → Bank → Bank → Prop} (h : m.Blind R Q)
    (hf : ∀ a, (f a).run.Blind (Q a) P) : (sure m >>= f).run.Blind R P := by
  rw [sure, ExceptT.run_bind_lift]
  exact h.bind hf

theorem blind_mapError {m : Attempt ε α} {f : ε → δ} {Q : Except δ α → Bank → Bank → Prop}
    (h : m.run.Blind R fun r => Q (r.mapError f)) : (m.mapError f).run.Blind R Q :=
  h.bind fun _ => .done fun _ _ hst => hst

theorem blind_look {f : Store → Except ε α} (h : ∀ b c, R b c → f b.store = f c.store) :
    (look f).run.Blind R fun _ => R :=
  fun b c hbc => ⟨h b c hbc, hbc⟩

theorem lockstep_bind {m : Attempt ε α} {f : α → Attempt ε β} (h : m.run.Lockstep R)
    (hf : ∀ a, (f a).run.Lockstep R) : (m >>= f).run.Lockstep R := by
  rw [ExceptT.run_bind]
  refine h.bind fun r => ?_
  cases r with
  | ok a => exact hf a
  | error e => exact .done _

theorem lockstep_sure_bind {m : Act α} {f : α → Attempt ε β} (h : m.Lockstep R)
    (hf : ∀ a, (f a).run.Lockstep R) : (sure m >>= f).run.Lockstep R := by
  rw [sure, ExceptT.run_bind_lift]
  exact h.bind hf

end Attempt

end Teller

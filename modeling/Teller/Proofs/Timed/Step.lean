import Mathlib.Logic.Relation
import Teller.Timed

/-!
# Computations step by step

`Timed.Step` is one step of a computation, where the time that a wait takes is left open: a wait ends
when the state is ready, or else at any moment. `Timed.run` is one of the paths that these steps make
(`path_run`), and a limit cuts a run in its pauses (`run_within`).
-/

namespace Teller

/-- The waits up to a limit and the state then, if the waits go beyond it. -/
def Trace.cut? {σ : Type} (limit : Time.Span) :
    List (Time.Span × σ) → Option (List (Time.Span × σ) × σ)
  | [] => none
  | (d, s) :: rest =>
    if d ≤ limit then
      match cut? (limit - d) rest with
      | none => none
      | some (pauses, t) => some ((d, s) :: pauses, t)
    else some ([(limit, s)], s)

/-- How long waits take together. -/
def Trace.elapsed {σ : Type} (pauses : List (Time.Span × σ)) : Time.Span :=
  pauses.foldr (fun pause d => pause.1 + d) .zero

/-- A limit that is not exceeded leaves the waits as they are. -/
theorem Trace.cut?_eq_none_iff {σ : Type} {limit : Time.Span} {pauses : List (Time.Span × σ)} :
    cut? limit pauses = none ↔ elapsed pauses ≤ limit := by
  induction pauses generalizing limit with
  | nil => exact ⟨fun _ => Nat.zero_le _, fun _ => rfl⟩
  | cons pause rest ih =>
    have hsum : elapsed (pause :: rest) ≤ limit ↔ pause.1 ≤ limit ∧ elapsed rest ≤ limit - pause.1 := by
      show pause.1.nanos + (elapsed rest).nanos ≤ limit.nanos ↔
        pause.1.nanos ≤ limit.nanos ∧ (elapsed rest).nanos ≤ limit.nanos - pause.1.nanos
      omega
    rw [hsum, ← ih, cut?]
    by_cases hle : pause.1 ≤ limit
    · simp only [hle, if_true, true_and]
      cases cut? (limit - pause.1) rest <;> simp
    · simp [hle]

namespace Timed

variable {σ α β : Type}

/-! ### Runs -/

@[simp] theorem run_done (a : α) (s : σ) : (.done a : Timed σ α).run s = ⟨[], a, s⟩ := rfl

theorem run_bind (m : Timed σ α) (f : α → Timed σ β) (s : σ) :
    (m >>= f).run s =
      ⟨(m.run s).pauses ++ ((f (m.run s).value).run (m.run s).state).pauses,
        ((f (m.run s).value).run (m.run s).state).value,
        ((f (m.run s).value).run (m.run s).state).state⟩ := by
  induction m generalizing s with
  | done a => rfl
  | act change next ih => exact ih s (change s)
  | wait span ready change next late ihNext ihLate =>
    simp only [wait_bind, run]
    split
    · exact ihNext s .zero (change s)
    · rw [ihLate span s]; rfl

theorem value_bind (m : Timed σ α) (f : α → Timed σ β) (s : σ) :
    ((m >>= f).run s).value = ((f (m.run s).value).run (m.run s).state).value := by
  rw [run_bind]

/-- A computation that does not pause goes on as if it were done at once. -/
theorem run_bind_of_run {m : Timed σ α} {s t : σ} {a : α} (h : m.run s = ⟨[], a, t⟩)
    (f : α → Timed σ β) : (m >>= f).run s = (f a).run t := by
  rw [run_bind, h]; rfl

/-- In a run, a limit leaves the computation in the pause that goes beyond it. -/
theorem run_within (limit : Time.Span) (m : Timed σ α) (s : σ) :
    (m.within limit).run s =
      match Trace.cut? limit (m.run s).pauses with
      | none => ⟨(m.run s).pauses, some (m.run s).value, (m.run s).state⟩
      | some (pauses, t) => ⟨pauses, none, t⟩ := by
  induction m generalizing limit s with
  | done a => rfl
  | act change next ih => exact ih s limit (change s)
  | wait span ready change next late ihNext ihLate =>
    by_cases hr : ready s = true
    · simp only [within, run, if_pos hr]
      exact ihNext s .zero limit (change s)
    · simp only [within, run, if_neg hr, Trace.cut?]
      by_cases hs : span ≤ limit
      · simp only [if_pos hs, and_self, ihLate]
        cases Trace.cut? (limit - span) (run (late span) s).pauses <;> rfl
      · simp only [hs, false_and, if_false, run_done]

/-! ### Steps and paths -/

/-- One step; a wait ends when the state is ready, or else at any moment. -/
inductive Step : Timed σ α → σ → Timed σ α → σ → Prop
  | act {change : σ → σ} {next : σ → Timed σ α} {s : σ} :
    Step (.act change next) s (next s) (change s)
  | ready {span : Time.Span} {ready : σ → Bool} {change : σ → σ}
    {next : σ → Time.Span → Timed σ α} {late : Time.Span → Timed σ α} {s : σ}
    (h : ready s = true) (d : Time.Span) :
    Step (.wait span ready change next late) s (next s d) (change s)
  | late {span : Time.Span} {ready : σ → Bool} {change : σ → σ}
    {next : σ → Time.Span → Timed σ α} {late : Time.Span → Timed σ α} {s : σ} (d : Time.Span) :
    Step (.wait span ready change next late) s (late d) s

/-- Any number of steps, while nobody else changes the state. -/
inductive Path : Timed σ α → σ → Timed σ α → σ → Prop
  | refl {m : Timed σ α} {s : σ} : Path m s m s
  | head {m n k : Timed σ α} {s t u : σ} (h : Step m s n t) (rest : Path n t k u) : Path m s k u

theorem path_run (m : Timed σ α) (s : σ) : Path m s (.done (m.run s).value) (m.run s).state := by
  induction m generalizing s with
  | done a => exact .refl
  | act change next ih => exact .head .act (ih s (change s))
  | wait span ready change next late ihNext ihLate =>
    simp only [run]
    split
    · rename_i h; exact .head (.ready h .zero) (ihNext s .zero (change s))
    · exact .head (.late span) (ihLate span s)

/-- What is left after some steps, and the state then; a wait for something else ends them. -/
def ahead : Nat → Timed σ α → σ → Timed σ α × σ
  | 0, m, s => (m, s)
  | _ + 1, .done a, s => (.done a, s)
  | k + 1, .act change next, s => (next s).ahead k (change s)
  | k + 1, .wait span ready change next late, s =>
    if ready s then (next s .zero).ahead k (change s) else (.wait span ready change next late, s)

theorem path_ahead (k : Nat) (m : Timed σ α) (s : σ) : Path m s (m.ahead k s).1 (m.ahead k s).2 := by
  induction k generalizing m s with
  | zero => exact .refl
  | succ k ih =>
    cases m with
    | done a => exact .refl
    | act change next => exact .head .act (ih _ _)
    | wait span ready change next late =>
      unfold ahead
      split
      · rename_i h; exact .head (.ready h .zero) (ih _ _)
      · exact .refl

end Timed

end Teller

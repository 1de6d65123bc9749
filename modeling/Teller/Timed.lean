import Teller.Time.Span

/-!
# Computations that take time

A timed computation acts on a state, one step after the other, and may wait in between. It is a tree
of steps, so others may act on the state between two of them. A wait ends when the state is ready
for what the computation wants to do, or else when its span is over; how long it took is told to the
rest of the computation.

`Timed.run` carries a computation out alone. Nobody else changes the state then, so a wait either is
over at once or lasts for its whole span. `Timed.within` sets a limit: the computation is left in the
first wait that goes beyond it. A wait that ends with the limit counts as done, so a computation that
never waits passes any limit.
-/

namespace Teller

/-- A computation on a state that may wait. -/
inductive Timed (σ α : Type) : Type where
  | done (result : α)
  /-- A change of the state that takes no time; what comes next depends on the state before it. -/
  | act (change : σ → σ) (next : σ → Timed σ α)
  /-- Waits until the state is ready, and changes it then; after the span it goes on without. -/
  | wait (span : Time.Span) (ready : σ → Bool) (change : σ → σ)
    (next : σ → Time.Span → Timed σ α) (late : Time.Span → Timed σ α)

/-- What a computation did. -/
structure Trace (σ α : Type) where
  /-- The waits, each with the state during it. -/
  pauses : List (Time.Span × σ)
  value : α
  state : σ

namespace Timed

variable {σ α β : Type}

protected def bind (m : Timed σ α) (f : α → Timed σ β) : Timed σ β :=
  match m with
  | .done a => f a
  | .act change next => .act change fun s => (next s).bind f
  | .wait span ready change next late =>
    .wait span ready change (fun s d => (next s d).bind f) fun d => (late d).bind f

instance : Monad (Timed σ) where
  pure := .done
  bind := Timed.bind

@[simp] theorem pure_eq (a : α) : (pure a : Timed σ α) = .done a := rfl

@[simp] theorem done_bind (a : α) (f : α → Timed σ β) : (.done a : Timed σ α) >>= f = f a := rfl

@[simp] theorem act_bind (change : σ → σ) (next : σ → Timed σ α) (f : α → Timed σ β) :
    .act change next >>= f = .act change fun s => next s >>= f := rfl

@[simp] theorem wait_bind (span : Time.Span) (ready : σ → Bool) (change : σ → σ)
    (next : σ → Time.Span → Timed σ α) (late : Time.Span → Timed σ α) (f : α → Timed σ β) :
    .wait span ready change next late >>= f =
      .wait span ready change (fun s d => next s d >>= f) fun d => late d >>= f := rfl

theorem bind_done (m : Timed σ α) : m >>= .done = m := by
  induction m with
  | done a => rfl
  | act change next ih => simp [ih]
  | wait span ready change next late ihNext ihLate => simp [ihNext, ihLate]

instance : LawfulMonad (Timed σ) :=
  LawfulMonad.mk' _
    (fun m => bind_done m)
    (fun _ _ => rfl)
    (fun m f g => by
      induction m with
      | done a => rfl
      | act change next ih => simp [ih]
      | wait span ready change next late ihNext ihLate => simp [ihNext, ihLate])

def get : Timed σ σ :=
  .act id .done

/-- A change of the state that takes no time. -/
def step (f : σ → α × σ) : Timed σ α :=
  .act (fun s => (f s).2) fun s => .done (f s).1

/-- A change of the state once it is ready; after the span, another result without it. -/
def await (span : Time.Span) (ready : σ → Bool) (f : σ → α × σ) (late : α) : Timed σ α :=
  .wait span ready (fun s => (f s).2) (fun s _ => .done (f s).1) fun _ => .done late

def sleep (d : Time.Span) : Timed σ Unit :=
  .wait d (fun _ => false) id (fun _ _ => .done ()) fun _ => .done ()

/-- The result, unless the computation waits beyond the limit; then it is left where it is. -/
def within (limit : Time.Span) : Timed σ α → Timed σ (Option α)
  | .done a => .done (some a)
  | .act change next => .act change fun s => (next s).within limit
  | .wait span ready change next late =>
    .wait (if span ≤ limit then span else limit) ready change
      (fun s d => (next s d).within (limit - d))
      fun d => if span ≤ limit ∧ d ≤ limit then (late d).within (limit - d) else .done none

/-- Carries the computation out while nobody else changes the state. -/
def run : Timed σ α → σ → Trace σ α
  | .done a, s => ⟨[], a, s⟩
  | .act change next, s => (next s).run (change s)
  | .wait span ready change next late, s =>
    if ready s then (next s .zero).run (change s)
    else
      let t := (late span).run s
      { t with pauses := (span, s) :: t.pauses }

instance : CoeFun (Timed σ α) (fun _ => σ → Trace σ α) := ⟨run⟩

/-- The computation waits, so it may be dropped. -/
def Waits : Timed σ α → Prop
  | .wait _ _ _ _ _ => True
  | _ => False

end Timed

end Teller

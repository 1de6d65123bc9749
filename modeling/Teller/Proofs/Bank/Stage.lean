import Teller.Bank.Basic
import Teller.Proofs.Store.Later
import Teller.Proofs.Timed.Follows
import Teller.Transfer.Order

/-!
# Stages of a call

What a call has done so far, as far as others can tell: the unit of work that it has open, and the
verdict on what it was to do, if there is one. A call changes the book at most once, in the step that
gives it its verdict. Meanwhile it counts on the others for its own draft and the rows that it has
locked, and for what no later store takes back (`Bank.Around`).
-/

namespace Teller

/-- Where a call stands. -/
structure Stage (ν : Type) where
  /-- The unit of work that it has open. -/
  unit : Option Int
  /-- What became of it. -/
  verdict : Option ν

def Stage.start {ν : Type} : Stage ν := ⟨none, none⟩

/-- A step that makes no difference to the book, nor a failure of a unit of work known. -/
structure Bank.Quiet (b b' : Bank) : Prop where
  book : b'.store.book = b.store.book
  refusals : b'.refusals = b.refusals
  journal : ∀ e, b'.journal ≠ .workFailed e :: b.journal

/-- A step of a call; `effect` says what the step does that gives it its verdict. -/
inductive Turn {ν : Type} (effect : ν → Bank → Bank → Prop) :
    Stage ν → Bank → Stage ν → Bank → Prop
  | plain {g : Stage ν} {b b' : Bank} (hq : b.Quiet b') (hm : Store.Move g.unit b.store b'.store)
    (hn : b'.store.nextDraft = b.store.nextDraft) : Turn effect g b g b'
  | opening {x : Option ν} {b : Bank} :
    Turn effect ⟨none, x⟩ b ⟨some b.store.nextDraft, x⟩ { b with store := b.store.openDraft.2 }
  | closing {u : Int} {x : Option ν} {b : Bank} :
    Turn effect ⟨some u, x⟩ b ⟨none, x⟩ { b with store := b.store.discard u }
  | verdict {u v : Option Int} {x : ν} {b b' : Bank} (hx : effect x b b')
    (hm : Store.Move u b.store b'.store) (hn : b'.store.nextDraft = b.store.nextDraft)
    (hr : b'.refusals = b.refusals)
    (hv : v = u ∨ v = none ∧ ∀ k, u = some k → b'.store.drafts.get? k = none) :
    Turn effect ⟨u, none⟩ b ⟨v, some x⟩ b'

/-- What a call may do. -/
structure Conduct (ν : Type) where
  inv : Store → Prop
  effect : ν → Bank → Bank → Prop
  idle : Stage ν → Prop

/-- What may happen around a call that has the unit of work open: its draft and its locked rows stay. -/
structure Bank.Around (inv : Store → Prop) (unit : Option Int) (b b' : Bank) : Prop where
  inv : inv b'.store
  untouched : ∀ u, unit = some u → b.store.Untouched u b'.store
  precedes : b.store.Precedes b'.store

/-- The rules for a call. -/
def Conduct.rules {ν : Type} (C : Conduct ν) : Rules Bank (Stage ν) where
  others g := Bank.Around C.inv g.unit
  own g b g' b' := C.inv b'.store ∧ Turn C.effect g b g' b'
  idle := C.idle

theorem Bank.Quiet.refl (b : Bank) : b.Quiet b :=
  ⟨rfl, rfl, fun _ h => List.cons_ne_self _ _ h.symm⟩

namespace Turn

variable {ν : Type} {effect : ν → Bank → Bank → Prop} {g g' : Stage ν} {b b' : Bank} {u : Int}

theorem refl (g : Stage ν) (b : Bank) : Turn effect g b g b :=
  plain (.refl b) (.setting b.store.faults b.store.now) rfl

theorem move (h : Turn effect g b g' b') : Store.Move g.unit b.store b'.store := by
  cases h with
  | plain hq hm hn => exact hm
  | opening => exact .openDraft
  | closing => exact .discard _
  | verdict hx hm hn hr hv => exact hm

theorem refusals (h : Turn effect g b g' b') : b'.refusals = b.refusals := by
  cases h with
  | plain hq hm hn => exact hq.refusals
  | opening => rfl
  | closing => rfl
  | verdict hx hm hn hr hv => exact hr

theorem mono {effect' : ν → Bank → Bank → Prop} (heffect : ∀ x, effect x b b' → effect' x b b')
    (h : Turn effect g b g' b') : Turn effect' g b g' b' := by
  cases h with
  | plain hq hm hn => exact .plain hq hm hn
  | opening => exact .opening
  | closing => exact .closing
  | verdict hx hm hn hr hv => exact .verdict (heffect _ hx) hm hn hr hv

/-- The unit of work that the call has open afterwards is the one before, or a new one. -/
theorem unit_eq (h : Turn effect g b g' b') (hu : g'.unit = some u) :
    g.unit = some u ∨ u = b.store.nextDraft ∧ b'.store.drafts.get? u ≠ none := by
  cases h with
  | plain hq hm hn => exact .inl hu
  | opening =>
    obtain rfl := Option.some.inj hu
    refine .inr ⟨rfl, ?_⟩
    rw [Store.openDraft, Table.get?_put_self]
    exact Option.some_ne_none _
  | closing => cases hu
  | verdict hx hm hn hr hv =>
    rcases hv with rfl | ⟨rfl, -⟩
    · exact .inl hu
    · cases hu

/-- A unit of work that is open afterwards was open before, or the call has it now. -/
theorem opened (h : Turn effect g b g' b') (hu : b'.store.drafts.get? u ≠ none) :
    b.store.drafts.get? u ≠ none ∨ u = b.store.nextDraft ∧ g'.unit = some u := by
  have hold (hn : b'.store.nextDraft = b.store.nextDraft) : b.store.drafts.get? u ≠ none :=
    (h.move.opened hu).resolve_right fun ⟨_, hs⟩ => by
      have := congrArg Store.nextDraft hs
      rw [hn] at this
      exact absurd this (Int.ne_of_lt (Int.lt_succ _))
  cases h with
  | plain hq hm hn => exact .inl (hold hn)
  | opening =>
    by_cases hk : u = b.store.nextDraft
    · exact .inr ⟨hk, congrArg some hk.symm⟩
    · refine .inl fun hnone => hu ?_
      rw [Store.openDraft, Table.get?_put, if_neg (Ne.symm hk), hnone]
  | closing => exact .inl (hold rfl)
  | verdict hx hm hn hr hv => exact .inl (hold hn)

/-- A unit of work that the call has no longer is closed. -/
theorem closed (h : Turn effect g b g' b') (hu : g.unit = some u) :
    g'.unit = some u ∨ b'.store.drafts.get? u = none := by
  cases h with
  | plain hq hm hn => exact .inl hu
  | opening => cases hu
  | closing =>
    obtain rfl := Option.some.inj hu
    refine .inr ?_
    rw [Store.discard, Table.get?_erase_self]
  | verdict hx hm hn hr hv =>
    rcases hv with rfl | ⟨rfl, hv⟩
    · exact .inl hu
    · exact .inr (hv u hu)

/-- A step makes no difference to the book, or it gives the verdict. -/
theorem quiet_or_effect (h : Turn effect g b g' b') :
    b.Quiet b' ∧ g'.verdict = g.verdict ∨
      ∃ x, g.verdict = none ∧ g'.verdict = some x ∧ effect x b b' := by
  cases h with
  | plain hq hm hn => exact .inl ⟨hq, rfl⟩
  | opening => exact .inl ⟨⟨rfl, rfl, fun _ h => List.cons_ne_self _ _ h.symm⟩, rfl⟩
  | closing => exact .inl ⟨⟨rfl, rfl, fun _ h => List.cons_ne_self _ _ h.symm⟩, rfl⟩
  | verdict hx hm hn hr hv => exact .inr ⟨_, rfl, rfl, hx⟩

end Turn

namespace Conduct

variable {ν : Type} {C : Conduct ν} {g : Stage ν} {b b' b'' : Bank}

theorem others_refl (h : C.inv b.store) : C.rules.others g b b :=
  ⟨h, fun u _ => .refl u b.store, .refl b.store⟩

theorem others_trans (h : C.rules.others g b b') (h' : C.rules.others g b' b'') :
    C.rules.others g b b'' :=
  ⟨h'.inv, fun u hu => (h.untouched u hu).trans (h'.untouched u hu), h.precedes.trans h'.precedes⟩

/-- A setting makes no difference to a call, nor does the journal. -/
theorem others_setting (hinv : C.inv b'.store) (faults : Faults) (now : Time.Instant)
    (hs : b'.store = { b.store with faults := faults, now := now }) : C.rules.others g b b' := by
  refine ⟨hinv, fun _ _ => ?_, ?_⟩ <;> rw [hs]
  · exact .of_book rfl rfl
  · exact .of_book rfl fun hk => ⟨hk.number, hk.book, hk.draft⟩

end Conduct

/-! ### Verdicts -/

/-- What became of a call. -/
inductive Verdict where
  | posted (r : Receipt)
  | opened (a : Account)
  | removed (id : Int)
  /-- A unit of work failed and is to be rolled back. -/
  | failed (cause : WorkError)

/-- The call has not changed the book, so it may still be dropped. -/
def Stage.Idle (g : Stage Verdict) : Prop :=
  ∀ x, g.verdict = some x → ∃ cause, x = .failed cause

theorem Stage.idle_of_none {g : Stage Verdict} (h : g.verdict = none) : g.Idle := fun x hx => by
  rw [h] at hx
  cases hx

end Teller

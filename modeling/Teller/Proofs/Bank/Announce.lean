import Teller.Proofs.Bank.Pool
import Teller.Proofs.Timed.Only

/-!
# Announcements

A call that has changed the book says so in the journal, once and in a step of its own. `Telling` are the
steps of a call of which its stage is known and whether it has said what became of it. Most of what a call
does is mute (`Bank.Mute`), so the rules for its stages carry over (`Conduct.telling_of_mute`); what only
looks at the bank leaves it where it is (`Conduct.telling_of_looks`).
-/

namespace Teller

/-- The event announces a change of the book. -/
def Event.announces : Event → Bool
  | .transferCommitted _ _ _ _ => true
  | .accountOpened _ _ _ => true
  | .accountDeleted _ _ => true
  | _ => false

/-- The changes of the book that have been announced, latest first. -/
def Bank.announced (b : Bank) : List Event :=
  b.journal.filter Event.announces

/-- How a change of the book is announced. -/
inductive Verdict.Announced : Verdict → Event → Prop
  | posted (r : Receipt) : Announced (.posted r) (.transferCommitted r.transfer.id r.transfer.source
      r.transfer.target r.transfer.amount)
  | opened (a : Account) : Announced (.opened a) (.accountOpened a.id a.owner a.currency)
  | removed (id : Int) (owner : String) : Announced (.removed id) (.accountDeleted id owner)

/-- Where a call stands, and whether it has announced what became of it. -/
structure Progress where
  stage : Stage Verdict
  told : Bool

def Progress.start : Progress := ⟨.start, false⟩

/-- A step of a call that announces what became of it. -/
inductive Telling (effect : Verdict → Bank → Bank → Prop) : Progress → Bank → Progress → Bank → Prop
  | mute {g g' : Stage Verdict} {told : Bool} {b b' : Bank} (ht : Turn effect g b g' b')
    (ha : b'.announced = b.announced) : Telling effect ⟨g, told⟩ b ⟨g', told⟩ b'
  | tells {g : Stage Verdict} {x : Verdict} {e : Event} {b : Bank} (hx : g.verdict = some x)
    (he : x.Announced e) : Telling effect ⟨g, false⟩ b ⟨g, true⟩ { b with journal := e :: b.journal }

/-- The rules for a call that announces what became of it. -/
def Conduct.telling (C : Conduct Verdict) : Rules Bank Progress where
  others p := C.rules.others p.stage
  own p b p' b' := C.inv b'.store ∧ Telling C.effect p b p' b'
  idle p := C.idle p.stage

/-- A step that announces nothing. -/
def Bank.Mute (b b' : Bank) : Prop :=
  b'.announced = b.announced

/-- A step that looks at the bank or notes something that does not matter to its calls. -/
inductive Bank.Looks : Bank → Bank → Prop
  | look (b : Bank) : Looks b b
  | note {e : Event} (b : Bank) (he : e.announces = false) (hw : ∀ c, e ≠ .workFailed c) :
    Looks b { b with journal := e :: b.journal }

theorem Bank.mute_note {e : Event} (he : e.announces = false) (b : Bank) :
    b.Mute { b with journal := e :: b.journal } := by
  show (e :: b.journal).filter Event.announces = b.journal.filter Event.announces
  rw [List.filter_cons_of_neg (by simp [he])]

theorem Verdict.Announced.announces {x : Verdict} {e : Event} (h : x.Announced e) : e.announces = true := by
  cases h <;> rfl

namespace Bank.Looks

variable {b b' : Bank}

theorem mute (h : b.Looks b') : b.Mute b' := by
  cases h with
  | look => exact rfl
  | note b he => exact mute_note he b

theorem store (h : b.Looks b') : b'.store = b.store := by
  cases h <;> rfl

theorem turn {ν : Type} {effect : ν → Bank → Bank → Prop} (h : b.Looks b') (g : Stage ν) :
    Turn effect g b g b' := by
  cases h with
  | look => exact .refl g b
  | note b he hw =>
    have hquiet : b.Quiet { b with journal := _ :: b.journal } :=
      ⟨rfl, rfl, fun c hc => hw c (List.cons.inj hc).1⟩
    exact .plain hquiet (.setting b.store.faults b.store.now) rfl

end Bank.Looks

namespace Telling

variable {effect effect' : Verdict → Bank → Bank → Prop} {p p' : Progress} {b b' : Bank}

/-- An announcement makes no difference to the stage. -/
theorem turn (h : Telling effect p b p' b') : Turn effect p.stage b p'.stage b' := by
  cases h with
  | mute ht => exact ht
  | @tells g x e b hx he =>
    have hquiet : b.Quiet { b with journal := e :: b.journal } := by
      refine ⟨rfl, rfl, fun c hc => ?_⟩
      obtain rfl := (List.cons.inj hc).1
      cases he
    exact .plain hquiet (.setting b.store.faults b.store.now) rfl

theorem mono (heffect : ∀ x, effect x b b' → effect' x b b') (h : Telling effect p b p' b') :
    Telling effect' p b p' b' := by
  cases h with
  | mute ht ha => exact .mute (ht.mono heffect) ha
  | tells hx he => exact .tells hx he

end Telling

namespace Conduct

variable {C : Conduct Verdict} {α : Type} {m : Act α} {E : α → Prop} {g : Stage Verdict} {p : Progress}
  {b : Bank}

/-- A verdict comes from a step that gives it. -/
theorem follows_verdict {ν : Type} {C : Conduct ν} {Q : Stage ν → α → Bank → Prop} {g : Stage ν} {V : ν → Prop}
    (hV : ∀ {x : ν} {t t' : Bank}, C.effect x t t' → V x) (hg : ∀ x, g.verdict = some x → V x)
    (h : m.Follows C.rules Q g b) :
    m.Follows C.rules (fun g a t => Q g a t ∧ ∀ x, g.verdict = some x → V x) g b := by
  refine (h.simulate (S := fun g g' => g = g' ∧ ∀ x, g.verdict = some x → V x)
    ?_ ?_ ?_ ⟨rfl, hg⟩).mono ?_
  · rintro g _ s t ⟨rfl, -⟩ ht
    exact ht
  · rintro g _ s g' t ⟨rfl, hg⟩ ⟨hinv, hturn⟩
    refine ⟨g', ⟨hinv, hturn⟩, rfl, fun x hx => ?_⟩
    rcases hturn.quiet_or_effect with ⟨-, hv⟩ | ⟨y, -, hy, heffect⟩
    · exact hg x (hv ▸ hx)
    · obtain rfl := Option.some.inj (hy.symm.trans hx)
      exact hV heffect
  · rintro g _ ⟨rfl, -⟩ hidle
    exact hidle
  · rintro _ a t ⟨g, ⟨rfl, hg⟩, hQ⟩
    exact ⟨hQ, hg⟩

/-- What a call does without an announcement. -/
theorem telling_of_mute (told : Bool) {Q : Stage Verdict → α → Bank → Prop} (h : m.Follows C.rules Q g b)
    (hm : m.Only Bank.Mute E) :
    m.Follows C.telling (fun p a t => p.told = told ∧ Q p.stage a t ∧ E a) ⟨g, told⟩ b := by
  refine ((h.only hm).simulate (S := fun g p => p = ⟨g, told⟩) ?_ ?_ ?_ rfl).mono ?_
  · rintro g _ s t rfl ht
    exact ht
  · rintro g _ s g' t rfl ⟨⟨hinv, hturn⟩, hmute⟩
    exact ⟨⟨g', told⟩, ⟨hinv, .mute hturn hmute⟩, rfl⟩
  · rintro g _ rfl hidle
    exact hidle
  · rintro _ a t ⟨g, rfl, hQ, hE⟩
    exact ⟨rfl, hQ, hE⟩

/-- A call that announces what became of it keeps to the rules for its stages. -/
theorem of_telling {Q : Progress → α → Bank → Prop} (h : m.Follows C.telling Q p b) :
    m.Follows C.rules (fun g a t => ∃ p, p.stage = g ∧ Q p a t) p.stage b := by
  refine h.simulate (S := fun p g => p.stage = g) ?_ ?_ ?_ rfl
  · rintro p _ s t rfl ht
    exact ht
  · rintro p _ s p' t rfl ⟨hinv, htelling⟩
    exact ⟨p'.stage, ⟨hinv, htelling.turn⟩, rfl⟩
  · rintro p _ rfl hidle
    exact hidle

theorem telling_of_looks (hp : C.idle p.stage) (hm : m.Only Bank.Looks E) :
    m.Follows C.telling (fun p' a _ => p' = p ∧ E a) p b := by
  have hown : ∀ {s t t' : Bank}, C.telling.others p s t → t.Looks t' → C.telling.own p t p t' := by
    intro s t t' ht hlooks
    refine ⟨?_, .mute (hlooks.turn p.stage) hlooks.mute⟩
    rw [hlooks.store]
    exact ht.inv
  induction m generalizing b with
  | done a => exact ⟨rfl, hm⟩
  | act change next ih =>
    intro t ht
    obtain ⟨hstep, hnext⟩ := hm t
    exact ⟨p, hown ht hstep, ih t hnext⟩
  | wait span ready change next late ihNext ihLate =>
    refine ⟨hp, fun t ht => ⟨fun hr => ?_, fun d => ihLate d (hm.2 d)⟩⟩
    obtain ⟨hstep, hnext⟩ := hm.1 t hr
    exact ⟨p, hown ht hstep, fun d => ihNext t d (hnext d)⟩

/-- A call announces its verdict. -/
theorem follows_tell {Q : Progress → Unit → Bank → Prop} {x : Verdict} {e : Event} (hx : g.verdict = some x)
    (he : x.Announced e) (h : ∀ t, Q ⟨g, true⟩ () t) : (Act.note e).Follows C.telling Q ⟨g, false⟩ b :=
  fun _ ht => ⟨⟨g, true⟩, ⟨ht.inv, .tells hx he⟩, h _⟩

/-- What holds of the store, and of every later one, narrows down what a call does. -/
theorem telling_narrow {effect effect' : Verdict → Bank → Bank → Prop} {idle : Stage Verdict → Prop}
    {K : Store → Prop} {Q : Progress → α → Bank → Prop} (hs : b.store.Sound) (hk : K b.store)
    (hlater : ∀ {s s' : Store}, K s → s.Precedes s' → K s')
    (hx : ∀ {x : Verdict} {t t' : Bank}, t.store.Sound → K t.store → effect x t t' → effect' x t t')
    (h : m.Follows (Conduct.mk Store.Sound effect idle).telling Q p b) :
    m.Follows (Conduct.mk Store.Sound effect' idle).telling Q p b := by
  refine h.keeping (K := fun t => t.store.Sound ∧ K t.store) ⟨hs, hk⟩ ?_ ?_ fun _ hp => hp
  · intro p t t' hkt ht
    exact ⟨⟨ht.inv, ht.untouched, ht.precedes⟩, ht.inv, hlater hkt.2 ht.precedes⟩
  · rintro p t p' t' ⟨hst, hkt⟩ ⟨hst', htelling⟩
    exact ⟨⟨hst', htelling.mono fun x => hx hst hkt⟩, hst', hlater hkt (htelling.turn.move.precedes hst)⟩

end Conduct

end Teller

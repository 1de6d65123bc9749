import Teller.Proofs.Bank.Change
import Teller.Proofs.Bank.Orderly

/-!
# Changes that are due

A call announces the change that it has made in a step of its own, so other calls may go on in between: at any
moment there may be changes that are due to be announced. In any traffic, the changes that were made are
those that are due and those that the journal tells of (`Announcing.accounted`), and only a call that neither waits
nor is over owes one (`Accounted.owes`). `Accounted` is the invariant, with the changes in the order in which they
were made; a step adds one of them, announces one or does neither (`Accounted.step`).
-/

namespace Teller

/-- The computation waits or is over. -/
def Timed.Rests {σ α : Type} : Timed σ α → Prop
  | .act _ _ => False
  | _ => True

theorem Timed.Waits.rests {σ α : Type} {m : Timed σ α} (h : m.Waits) : m.Rests := by
  cases m with
  | wait => trivial
  | done => trivial
  | act => exact h.elim

/-! ### What one call owes -/

namespace Progress

variable {E : Verdict → Bank → Bank → Prop} {p p' : Progress} {b b' : Bank}

/-- The change that the call has made and not yet announced. -/
def due? (p : Progress) : Option Change :=
  if p.told then none else p.stage.verdict.bind Verdict.change?

/-- Only a verdict that is there has been announced. -/
def Sound (p : Progress) : Prop :=
  p.told = true → p.stage.verdict ≠ none

/-- Nothing is due of a call that has not changed the book or has said so. -/
theorem due?_eq_none (h : p.stage.Idle ∨ p.told = true) : p.due? = none := by
  unfold due?
  rcases h with hidle | htold
  · cases hx : p.stage.verdict with
    | none => simp
    | some x => simp [hidle.change?_eq_none hx]
  · rw [if_pos htold]

/-- What a step of a call comes to: nothing, a change that is due from then on, or its announcement. -/
inductive Comes (E : Verdict → Bank → Bank → Prop) (p : Progress) (b : Bank) (p' : Progress) (b' : Bank) : Prop
  | quiet (hdue : p'.due? = p.due?) (hbook : b'.store.book = b.store.book) (htold : b'.told = b.told)
  | changes {x : Verdict} {d : Change} (hx : E x b b') (hd : x.change? = some d) (hnone : p.due? = none)
    (hdue : p'.due? = some d) (htold : b'.told = b.told)
  | tells {d : Change} (hdue : p.due? = some d) (hnone : p'.due? = none) (hbook : b'.store.book = b.store.book)
    (htold : b'.told = b.told ++ [d])

theorem comes_of_telling (hquiet : ∀ x, E x b b' → x.change? = none → b'.store.book = b.store.book) (hp : p.Sound)
    (h : Telling E p b p' b') : p'.Sound ∧ p.Comes E b p' b' := by
  cases h with
  | @mute g g' told b b' ht ha =>
    have htold := Bank.told_of_announced ha
    rcases ht.quiet_or_effect with ⟨hq, hv⟩ | ⟨x, hnone, hx, heffect⟩
    · refine ⟨fun h => ?_, .quiet ?_ hq.book htold⟩
      · show g'.verdict ≠ none
        rw [hv]
        exact hp h
      · simp [due?, hv]
    · -- there was no verdict that could have been announced
      obtain rfl : told = false := Bool.eq_false_iff.2 fun h => hp h hnone
      refine ⟨nofun, ?_⟩
      have hbefore : due? ⟨g, false⟩ = none := by simp [due?, hnone]
      cases hd : x.change? with
      | none => exact .quiet (by simp [due?, hnone, hx, hd]) (hquiet x heffect hd) htold
      | some d => exact .changes heffect hd hbefore (by simp [due?, hx, hd]) htold
  | tells hx he =>
    obtain ⟨d, hd⟩ := he.exists_change?
    exact ⟨fun _ => by simp [hx], .tells (by simp [due?, hx, hd]) rfl rfl (Bank.told_note hd he)⟩

end Progress

/-! ### Calls that announce what they do -/

namespace Protocol

variable {κ α : Type} {P : Protocol κ α Verdict}

def conduct (P : Protocol κ α Verdict) (c : κ) : Conduct Verdict :=
  ⟨P.inv, P.effect c, P.idle⟩

/-- A call that is over, or may be dropped, has not changed the book or has announced that it has. -/
structure Announcing (P : Protocol κ α Verdict) : Prop where
  invariant : Store.Invariant P.inv
  idle : P.idle = Stage.Idle
  ends : ∀ c g r, P.ends c g r
  follows : ∀ c {b : Bank}, P.inv b.store →
    (P.act c).Follows (P.conduct c).telling (fun p _ _ => p.stage.Idle ∨ p.told = true) .start b

theorem Announcing.kept (hP : P.Announcing) : P.Kept where
  invariant := hP.invariant
  follows c _ hb := (Conduct.of_telling (hP.follows c hb)).mono fun g r _ _ => hP.ends c g r

/-- The traffic of calls whose progress is known. -/
structure Speaks (P : Protocol κ α Verdict) (progress : Int → Progress) (w : Traffic κ α) : Prop where
  orderly : P.Orderly (Progress.stage ∘ progress) w
  follows : ∀ {n f}, w.flights.get? n = some f →
    f.rest.Follows (P.conduct f.call).telling (fun p _ _ => p.stage.Idle ∨ p.told = true) (progress n) w.bank

namespace Speaks

variable {progress : Int → Progress} {w w' : Traffic κ α} {n : Int} {f : Flight κ α}

/-- What happens around a call makes no difference to what it does. -/
theorem follows_around (h : P.Speaks progress w) (hf : w.flights.get? n = some f) {b : Bank}
    (hb : Bank.Around P.inv (progress n).stage.unit w.bank b) :
    f.rest.Follows (P.conduct f.call).telling (fun p _ _ => p.stage.Idle ∨ p.told = true) (progress n) b :=
  (h.follows hf).others (fun _ _ _ _ => Conduct.others_trans (C := P.conduct f.call)) (fun _ _ _ _ hq _ => hq) hb

/-- A call that waits or is over owes nothing. -/
theorem due?_of_rests (hP : P.Announcing) (h : P.Speaks progress w) (hf : w.flights.get? n = some f)
    (hrest : f.rest.Rests) : (progress n).due? = none := by
  refine Progress.due?_eq_none ?_
  have hfollows := h.follows hf
  cases hm : f.rest with
  | done x =>
    rw [hm] at hfollows
    exact hfollows
  | act change next =>
    rw [hm] at hrest
    exact hrest.elim
  | wait span ready change next late =>
    rw [hm] at hfollows
    exact .inl (hP.idle ▸ hfollows.1)

theorem quiet (P : Protocol κ α Verdict) {b : Bank} (hb : P.inv b.store) :
    P.Speaks (fun _ => .start) (Traffic.quiet b) :=
  ⟨.quiet P _ hb, fun hf => by cases hf⟩

theorem arrival (hP : P.Announcing) (h : P.Speaks progress w) (c : κ) :
    P.Speaks (Function.update progress w.next .start)
      { w with flights := w.flights.put w.next ⟨c, P.act c, []⟩, next := w.next + 1 } := by
  refine ⟨?_, fun {k f} hf => ?_⟩
  · rw [Function.comp_update]
    exact h.orderly.arrival hP.kept c
  · rcases Table.get?_put_eq_some_iff.1 hf with ⟨rfl, rfl⟩ | ⟨hk, hf⟩
    · rw [Function.update_self]
      exact hP.follows c h.orderly.inv
    · rw [Function.update_of_ne hk]
      exact h.follows hf

/-- A step of one call. -/
theorem move (hP : P.Announcing) (h : P.Speaks progress w) (hf : w.flights.get? n = some f) {m : Act α} {b : Bank}
    (hm : Timed.Step f.rest w.bank m b) : ∃ p, Telling (P.effect f.call) (progress n) w.bank p b ∧
      P.Speaks (Function.update progress n p)
        { w with
          bank := b
          flights := w.flights.put n ⟨f.call, m, f.units ++ b.store.opened w.bank.store.nextDraft⟩ } := by
  have hinv := h.orderly.inv
  obtain ⟨p, hinv', htelling, hfol⟩ : ∃ p, P.inv b.store ∧ Telling (P.effect f.call) (progress n) w.bank p b ∧
      m.Follows (P.conduct f.call).telling (fun p _ _ => p.stage.Idle ∨ p.told = true) p b := by
    rcases (h.follows hf).step (Conduct.others_refl (C := P.conduct f.call) hinv) hm with
      ⟨p, ⟨hinv', htelling⟩, hfol⟩ | ⟨rfl, hfol⟩
    · exact ⟨p, hinv', htelling, hfol⟩
    · exact ⟨progress n, hinv, .mute (.refl _ _) rfl, hfol⟩
  refine ⟨p, htelling, ?_, ?_⟩
  · rw [Function.comp_update]
    refine h.orderly.turn hP.kept hf hinv' htelling.turn ?_
    exact (Conduct.of_telling hfol).mono fun g r _ _ => hP.ends f.call g r
  · intro k f' hf'
    rcases Table.get?_put_eq_some_iff.1 hf' with ⟨rfl, rfl⟩ | ⟨hk, hf'⟩
    · rw [Function.update_self]
      exact hfol
    · rw [Function.update_of_ne hk]
      exact h.follows_around hf' (h.orderly.around_turn hP.kept hf hinv' htelling.turn hk hf')

/-- A call is dropped, and its unit of work ends. -/
theorem departure (hP : P.Announcing) (h : P.Speaks progress w) (hf : w.flights.get? n = some f) :
    P.Speaks (Function.update progress n ⟨⟨none, (progress n).stage.verdict⟩, (progress n).told⟩)
      { w with
        bank := { w.bank with store := w.bank.store.discardAll f.units }
        flights := w.flights.erase n } := by
  refine ⟨?_, fun {k f'} hf' => ?_⟩
  · rw [Function.comp_update]
    exact h.orderly.departure hP.kept hf
  · obtain ⟨hk, hf'⟩ := Table.get?_erase_eq_some_iff.1 hf'
    rw [Function.update_of_ne hk]
    exact h.follows_around hf' (h.orderly.around_departure hP.kept hf hk hf')

theorem setting (hP : P.Announcing) (h : P.Speaks progress w) (faults : Faults) (now : Time.Instant)
    (refusals : List Bank.Refusal) : P.Speaks progress
      { w with
        bank :=
          { w.bank with
            store := { w.bank.store with faults := faults, now := now }
            refusals := refusals } } := by
  have horderly := h.orderly.setting hP.kept faults now refusals
  refine ⟨horderly, fun {n f} hf => ?_⟩
  exact h.follows_around hf (Conduct.others_setting (C := P.conduct f.call) horderly.inv faults now rfl)

end Speaks

/-! ### What all calls owe together -/

/-- What tells a book keeps up with it if the changes are told as they are made, and nothing else changes the
book. -/
structure Tells (P : Protocol κ α Verdict) (T : List Change → Book → Prop) : Prop where
  quiet : ∀ {c x s s'}, P.effect c x s s' → x.change? = none → s'.store.book = s.store.book
  differs : ∀ {c x s s' d}, P.effect c x s s' → x.change? = some d → s'.store.book ≠ s.store.book
  changes : ∀ {c x s s' d l}, P.inv s.store → P.effect c x s s' → x.change? = some d → T l s.store.book →
    T (l ++ [d]) s'.store.book

/-- The changes so far, in the order in which they were made: the journal tells of them, or they are due. -/
structure Accounted (P : Protocol κ α Verdict) (T : List Change → Book → Prop) (progress : Int → Progress)
    (due : Table Change) (changes : List Change) (w : Traffic κ α) : Prop where
  speaks : P.Speaks progress w
  sound : ∀ n, (progress n).Sound
  owed : ∀ n, due.get? n = (progress n).due?
  known : ∀ n d, due.get? n = some d → ∃ f, w.flights.get? n = some f
  made : changes.Perm (due.values ++ w.bank.told)
  tells : T changes w.bank.store.book

/-- What a step comes to: nothing, one more change that is due, or the announcement of one. -/
inductive Adds (due : Table Change) (changes : List Change) (w : Traffic κ α) (e : Happening κ) (w' : Traffic κ α) :
    Table Change → List Change → Prop
  | quiet (hbook : w'.bank.store.book = w.bank.store.book) (htold : w'.bank.told = w.bank.told) :
    Adds due changes w e w' due changes
  | changes {n : Int} {c : κ} {s s' : Bank} {d : Change} (he : e = .move n c s s') (hnone : due.get? n = none)
    (hbook : w'.bank.store.book ≠ w.bank.store.book) (htold : w'.bank.told = w.bank.told) :
    Adds due changes w e w' (due.put n d) (changes ++ [d])
  | tells {n : Int} {c : κ} {s s' : Bank} {d : Change} (he : e = .move n c s s') (hdue : due.get? n = some d)
    (hbook : w'.bank.store.book = w.bank.store.book) (htold : w'.bank.told = w.bank.told ++ [d]) :
    Adds due changes w e w' (due.erase n) changes

namespace Accounted

variable {T : List Change → Book → Prop} {progress : Int → Progress} {due : Table Change} {changes : List Change}
  {w w' : Traffic κ α} {n : Int} {f : Flight κ α} {e : Happening κ}

/-- Who owes the announcement of a change neither waits nor is over. -/
theorem owes (hP : P.Announcing) (h : P.Accounted T progress due changes w) {d : Change} (hd : due.get? n = some d) :
    ∃ f, w.flights.get? n = some f ∧ ¬ f.rest.Rests := by
  obtain ⟨f, hf⟩ := h.known n d hd
  refine ⟨f, hf, fun hrest => ?_⟩
  rw [h.owed n, h.speaks.due?_of_rests hP hf hrest] at hd
  cases hd

/-- When every call waits or is over, the journal tells of all changes. -/
theorem told_of_rests (hP : P.Announcing) (h : P.Accounted T progress due changes w)
    (hrests : ∀ n f, w.flights.get? n = some f → f.rest.Rests) : changes.Perm w.bank.told := by
  have hnone : due.values = [] := Table.values_eq_nil_iff.2 fun n => by
    by_contra hd
    obtain ⟨d, hd⟩ := Option.ne_none_iff_exists'.1 hd
    obtain ⟨f, hf, hnot⟩ := h.owes hP hd
    exact hnot (hrests n f hf)
  have hmade := h.made
  rwa [hnone] at hmade

theorem sound_update (h : P.Accounted T progress due changes w) {p : Progress} (hp : p.Sound) :
    ∀ k, (Function.update progress n p k).Sound :=
  (Function.forall_update_iff progress fun _ q => q.Sound).2 ⟨hp, fun k _ => h.sound k⟩

/-- The progress of a call that owes what it owed before. -/
theorem due_update (h : P.Accounted T progress due changes w) {p : Progress} (hp : p.due? = due.get? n) :
    ∀ k, due.get? k = (Function.update progress n p k).due? :=
  (Function.forall_update_iff progress fun k q => due.get? k = q.due?).2 ⟨hp.symm, fun k _ => h.owed k⟩

theorem arrival (hP : P.Announcing) (h : P.Accounted T progress due changes w) (c : κ) :
    P.Accounted T (Function.update progress w.next .start) due changes
      { w with flights := w.flights.put w.next ⟨c, P.act c, []⟩, next := w.next + 1 } where
  speaks := h.speaks.arrival hP c
  sound := h.sound_update nofun
  owed := by
    refine h.due_update ?_
    -- nobody has had the number before
    cases hd : due.get? w.next with
    | none => rfl
    | some d =>
      obtain ⟨f, hf⟩ := h.known _ d hd
      exact absurd (h.speaks.orderly.next hf) (Int.lt_irrefl _)
  known k d hd := by
    obtain ⟨f, hf⟩ := h.known k d hd
    have hk : k ≠ w.next := Int.ne_of_lt (h.speaks.orderly.next hf)
    exact ⟨f, (Table.get?_put_of_ne hk _).trans hf⟩
  made := h.made
  tells := h.tells

theorem departure (hP : P.Announcing) (h : P.Accounted T progress due changes w) (hf : w.flights.get? n = some f)
    (hw : f.rest.Waits) :
    P.Accounted T (Function.update progress n ⟨⟨none, (progress n).stage.verdict⟩, (progress n).told⟩) due changes
      { w with
        bank := { w.bank with store := w.bank.store.discardAll f.units }
        flights := w.flights.erase n } where
  speaks := h.speaks.departure hP hf
  sound := h.sound_update (h.sound n)
  owed := h.due_update (h.owed n).symm
  known k d hd := by
    obtain ⟨f', hf', hrest⟩ := h.owes hP hd
    refine ⟨f', (Table.get?_erase_of_ne fun hk => ?_).trans hf'⟩
    subst hk
    obtain rfl := Option.some.inj (hf.symm.trans hf')
    exact hrest hw.rests
  made := h.made
  tells := by
    rw [Store.discardAll_book]
    exact h.tells

theorem setting (hP : P.Announcing) (h : P.Accounted T progress due changes w) (faults : Faults)
    (now : Time.Instant) (refusals : List Bank.Refusal) : P.Accounted T progress due changes
      { w with
        bank :=
          { w.bank with
            store := { w.bank.store with faults := faults, now := now }
            refusals := refusals } } :=
  ⟨h.speaks.setting hP faults now refusals, h.sound, h.owed, h.known, h.made, h.tells⟩

section

variable {p : Progress} (h : P.Accounted T progress due changes w) (hspeaks : P.Speaks (Function.update progress n p) w')
  (hp : p.Sound) (hknown : ∀ k f, w.flights.get? k = some f → ∃ f', w'.flights.get? k = some f')

include h hspeaks hp hknown

theorem move_quiet (hdue : p.due? = (progress n).due?) (hbook : w'.bank.store.book = w.bank.store.book)
    (htold : w'.bank.told = w.bank.told) :
    P.Accounted T (Function.update progress n p) due changes w' where
  speaks := hspeaks
  sound := h.sound_update hp
  owed := h.due_update (hdue.trans (h.owed n).symm)
  known k d hd := by
    obtain ⟨f, hf⟩ := h.known k d hd
    exact hknown k f hf
  made := htold.symm ▸ h.made
  tells := hbook.symm ▸ h.tells

theorem move_changes {d : Change} (hn : ∃ f, w'.flights.get? n = some f) (hnone : due.get? n = none)
    (hdue : p.due? = some d) (htold : w'.bank.told = w.bank.told) (hT : T (changes ++ [d]) w'.bank.store.book) :
    P.Accounted T (Function.update progress n p) (due.put n d) (changes ++ [d]) w' where
  speaks := hspeaks
  sound := h.sound_update hp
  owed k := by
    by_cases hk : k = n
    · rw [hk, Table.get?_put_self, Function.update_self, hdue]
    · rw [Table.get?_put_of_ne hk, Function.update_of_ne hk, h.owed k]
  known k d' hd' := by
    rcases Table.get?_put_eq_some_iff.1 hd' with ⟨rfl, -⟩ | ⟨-, hd'⟩
    · exact hn
    · obtain ⟨f, hf⟩ := h.known k d' hd'
      exact hknown k f hf
  made := by
    rw [htold]
    calc changes ++ [d]
      _ |>.Perm (d :: changes) := List.perm_append_singleton d changes
      _ |>.Perm (d :: (due.values ++ w.bank.told)) := h.made.cons d
      _ |>.Perm ((due.put n d).values ++ w.bank.told) := (Table.values_put_new hnone).symm.append_right _
  tells := hT

theorem move_tells {d : Change} (hdue : due.get? n = some d) (hnone : p.due? = none)
    (hbook : w'.bank.store.book = w.bank.store.book) (htold : w'.bank.told = w.bank.told ++ [d]) :
    P.Accounted T (Function.update progress n p) (due.erase n) changes w' where
  speaks := hspeaks
  sound := h.sound_update hp
  owed k := by
    by_cases hk : k = n
    · rw [hk, Table.get?_erase_self, Function.update_self, hnone]
    · rw [Table.get?_erase_of_ne hk, Function.update_of_ne hk, h.owed k]
  known k d' hd' := by
    obtain ⟨f, hf⟩ := h.known k d' (Table.get?_erase_eq_some_iff.1 hd').2
    exact hknown k f hf
  made := by
    rw [htold, ← List.append_assoc]
    calc changes
      _ |>.Perm (due.values ++ w.bank.told) := h.made
      _ |>.Perm (d :: ((due.erase n).values ++ w.bank.told)) := (Table.values_erase hdue).append_right _
      _ |>.Perm ((due.erase n).values ++ w.bank.told ++ [d]) := (List.perm_append_singleton d _).symm
  tells := hbook.symm ▸ h.tells

end

/-- What a step of the traffic makes of the account. -/
theorem step (hP : P.Announcing) (hT : P.Tells T) (h : P.Accounted T progress due changes w)
    (hs : Traffic.Step P.act w e w') : ∃ progress' due' changes',
      P.Accounted T progress' due' changes' w' ∧ Adds due changes w e w' due' changes' := by
  cases hs with
  | arrival c => exact ⟨_, _, _, h.arrival hP c, .quiet rfl rfl⟩
  | @move n f m b hf hm =>
    obtain ⟨p, htelling, hspeaks⟩ := h.speaks.move hP hf hm
    obtain ⟨hp, hcomes⟩ := Progress.comes_of_telling (fun _ => hT.quiet) (h.sound n) htelling
    have hown : ∃ f', (w.flights.put n ⟨f.call, m, f.units ++ b.store.opened w.bank.store.nextDraft⟩).get? n =
      some f' := ⟨_, Table.get?_put_self _ _ _⟩
    have hknown : ∀ k f', w.flights.get? k = some f' → ∃ f',
        (w.flights.put n ⟨f.call, m, f.units ++ b.store.opened w.bank.store.nextDraft⟩).get? k = some f' := by
      intro k f' hf'
      by_cases hk : k = n
      · exact hk ▸ hown
      · exact ⟨f', (Table.get?_put_of_ne hk _).trans hf'⟩
    cases hcomes with
    | quiet hdue hbook htold => exact ⟨_, _, _, h.move_quiet hspeaks hp hknown hdue hbook htold, .quiet hbook htold⟩
    | changes hx hd hnone hdue htold =>
      have hfree : due.get? n = none := (h.owed n).trans hnone
      have htells := hT.changes h.speaks.orderly.inv hx hd h.tells
      exact ⟨_, _, _, h.move_changes hspeaks hp hknown hown hfree hdue htold htells,
        .changes rfl hfree (hT.differs hx hd) htold⟩
    | tells hdue hnone hbook htold =>
      have howed := (h.owed n).trans hdue
      exact ⟨_, _, _, h.move_tells hspeaks hp hknown howed hnone hbook htold, .tells rfl howed hbook htold⟩
  | departure hf hw => exact ⟨_, _, _, h.departure hP hf hw, .quiet (Store.discardAll_book _ _) rfl⟩
  | change faults now refusals => exact ⟨_, _, _, h.setting hP faults now refusals, .quiet rfl rfl⟩

end Accounted

/-- At first no change has been made. -/
theorem Tells.accounted_quiet {T : List Change → Book → Prop} {b : Bank} (hb : P.inv b.store) (htold : b.told = [])
    (hstart : T [] b.store.book) : P.Accounted T (fun _ => .start) .empty [] (Traffic.quiet b) where
  speaks := .quiet P hb
  sound _ := nofun
  owed _ := rfl
  known _ _ := nofun
  made := by
    show [].Perm ([] ++ b.told)
    rw [htold]
    rfl
  tells := hstart

/-- In any traffic, the changes that were made are those that are due and those that the journal tells of. -/
theorem Announcing.accounted {T : List Change → Book → Prop} {b : Bank} {h : List (Happening κ)} {w : Traffic κ α}
    (hP : P.Announcing) (hT : P.Tells T) (hb : P.inv b.store) (htold : b.told = []) (hstart : T [] b.store.book)
    (hr : Traffic.Run P.act b h w) : ∃ progress due changes, P.Accounted T progress due changes w := by
  induction hr with
  | start => exact ⟨_, _, _, Tells.accounted_quiet hb htold hstart⟩
  | step _ hs ih =>
    obtain ⟨progress, due, changes, haccounted⟩ := ih
    obtain ⟨progress', due', changes', haccounted', -⟩ := haccounted.step hP hT hs
    exact ⟨progress', due', changes', haccounted'⟩

end Protocol

end Teller

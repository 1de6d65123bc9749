import Teller.Proofs.Bank.Due

/-!
# Announcements in step

The journal tells of changes in the order of their announcements. That is the order in which they were made if
every change is announced before the next one (`Traffic.InStep`), whatever else the calls do meanwhile and in
whatever order. It is so when calls share a thread (`Announcing.inStep`): a call that goes on does so until it waits or
is over, and may be dropped where it waits (`Traffic.Shared`).
-/

namespace Teller

namespace Traffic

variable {κ α : Type} {act : κ → Act α} {b : Bank} {w w' : Traffic κ α} {n : Int} {e : Happening κ}

/-- Traffic in which every change of the book is announced before the next one is made; the flag says whether the
last one is due. -/
inductive InStep (act : κ → Act α) (b : Bank) : Bool → Traffic κ α → Prop
  | start : InStep act b false (quiet b)
  | quiet {due : Bool} {e : Happening κ} {w w' : Traffic κ α} (hw : InStep act b due w) (hs : Step act w e w')
    (hbook : w'.bank.store.book = w.bank.store.book) (htold : w'.bank.told = w.bank.told) : InStep act b due w'
  | change {e : Happening κ} {w w' : Traffic κ α} (hw : InStep act b false w) (hs : Step act w e w')
    (hbook : w'.bank.store.book ≠ w.bank.store.book) : InStep act b true w'
  | announcement {e : Happening κ} {w w' : Traffic κ α} (hw : InStep act b true w) (hs : Step act w e w')
    (htold : w'.bank.told ≠ w.bank.told) : InStep act b false w'

/-! ### Calls that share a thread -/

/-- Steps of one call, with no step of another in between. -/
def Spell (act : κ → Act α) (n : Int) : Traffic κ α → Traffic κ α → Prop :=
  Relation.ReflTransGen fun w w' => ∃ c s s', Step act w (.move n c s s') w'

/-- The traffic of calls that share a thread: between two turns calls come in and are dropped, and settings change. -/
inductive Shared (act : κ → Act α) (b : Bank) : Traffic κ α → Prop
  | start : Shared act b (quiet b)
  | turn {n : Int} {w w' : Traffic κ α} {f : Flight κ α} (hw : Shared act b w) (hs : Spell act n w w')
    (hf : w'.flights.get? n = some f) (hrest : f.rest.Rests) : Shared act b w'
  | other {e : Happening κ} {w w' : Traffic κ α} (hw : Shared act b w) (hs : Step act w e w')
    (he : ∀ n c s s', e ≠ .move n c s s') : Shared act b w'

/-- A call takes a turn by any steps that it can take alone. -/
theorem spell_of_path (act : κ → Act α) {f : Flight κ α} {m : Act α} {b' : Bank} (hf : w.flights.get? n = some f)
    (hp : Timed.Path f.rest w.bank m b') : ∃ w' f', Spell act n w w' ∧ w'.bank = b' ∧
      w'.flights.get? n = some f' ∧ f'.rest = m := by
  obtain ⟨c, rest, units⟩ := f
  obtain ⟨bank, flights, next⟩ := w
  dsimp only at hf hp ⊢
  induction hp generalizing flights units with
  | refl => exact ⟨_, _, .refl, rfl, hf, rfl⟩
  | @head m₀ m' k s t u hs _ ih =>
    obtain ⟨w', f', hspell, hb, hf', hm⟩ := ih _ _ (Table.get?_put_self _ _ _)
    refine ⟨w', f', .head ⟨c, s, t, ?_⟩ hspell, hb, hf', hm⟩
    exact Step.move (w := ⟨s, flights, next⟩) hf hs

/-- One more call, which has a turn until it is over. -/
theorem Shared.alone (hw : Shared act b w) (c : κ) :
    ∃ w', Shared act b w' ∧ w'.bank = ((act c).run w.bank).state := by
  have harrival := hw.other (.arrival c) (by rintro n c s s' ⟨⟩)
  have hnew : (w.flights.put w.next ⟨c, act c, []⟩).get? w.next = some ⟨c, act c, []⟩ := Table.get?_put_self _ _ _
  obtain ⟨w', f, hspell, hb, hf, hrest⟩ := spell_of_path act
    (w := { w with flights := w.flights.put w.next ⟨c, act c, []⟩, next := w.next + 1 }) hnew
    (Timed.path_run (act c) w.bank)
  refine ⟨w', harrival.turn hspell hf ?_, hb⟩
  rw [hrest]
  trivial

theorem Shared.setting (hw : Shared act b w) (faults : Faults) (now : Time.Instant) (refusals : List Bank.Refusal) :
    ∃ w', Shared act b w' ∧ w'.bank =
      { w.bank with
        store := { w.bank.store with faults := faults, now := now }
        refusals := refusals } :=
  ⟨_, hw.other (.change faults now refusals) (by rintro n c s s' ⟨⟩), rfl⟩

/-- What is no step of a call makes no difference to the book or the journal. -/
theorem Step.quiet_of_ne_move (hs : Step act w e w') (he : ∀ n c s s', e ≠ .move n c s s') :
    w'.bank.store.book = w.bank.store.book ∧ w'.bank.told = w.bank.told := by
  cases hs with
  | arrival c => exact ⟨rfl, rfl⟩
  | move => exact absurd rfl (he _ _ _ _)
  | departure => exact ⟨Store.discardAll_book _ _, rfl⟩
  | change => exact ⟨rfl, rfl⟩

end Traffic

/-! ### What the journal tells -/

namespace Protocol

variable {κ α : Type} {P : Protocol κ α Verdict} {T : List Change → Book → Prop} {progress : Int → Progress}
  {due : Table Change} {changes : List Change} {b : Bank} {w w' : Traffic κ α} {n : Int} {flag : Bool}

/-- In step, the journal lacks at most the last change. -/
theorem Announcing.accounted_of_inStep (hP : P.Announcing) (hT : P.Tells T) (hb : P.inv b.store) (htold : b.told = [])
    (hstart : T [] b.store.book) (hw : Traffic.InStep P.act b flag w) : ∃ progress due,
      P.Accounted T progress due (w.bank.told ++ due.values) w ∧ due.values.length = flag.toNat := by
  induction hw with
  | start =>
    have hnone : (Traffic.quiet b : Traffic κ α).bank.told ++ (Table.empty : Table Change).values = [] := by
      show b.told ++ [] = []
      rw [htold]
      rfl
    exact ⟨_, .empty, hnone ▸ Tells.accounted_quiet hb htold hstart, rfl⟩
  | @quiet flag e w w' _ hs hbook htold ih =>
    obtain ⟨progress, due, haccounted, hlength⟩ := ih
    obtain ⟨progress', due', changes', haccounted', hadds⟩ := haccounted.step hP hT hs
    cases hadds with
    | quiet => exact ⟨progress', due, htold ▸ haccounted', hlength⟩
    | changes _ _ hbook' => exact absurd hbook hbook'
    | tells _ _ _ htold' => simp [htold] at htold'
  | @change e w w' _ hs hbook ih =>
    obtain ⟨progress, due, haccounted, hlength⟩ := ih
    obtain ⟨progress', due', changes', haccounted', hadds⟩ := haccounted.step hP hT hs
    cases hadds with
    | quiet hbook' => exact absurd hbook' hbook
    | tells _ _ hbook' => exact absurd hbook' hbook
    | @changes n c s s' d _ hnone _ htold =>
      have hempty : due.values = [] := List.eq_nil_of_length_eq_zero hlength
      have hvalues : (due.put n d).values = [d] := by
        rw [← List.perm_singleton, ← hempty]
        exact Table.values_put_new hnone
      refine ⟨progress', due.put n d, ?_, by rw [hvalues]; rfl⟩
      rw [hvalues, htold]
      rwa [hempty, List.append_nil] at haccounted'
  | @announcement e w w' _ hs htold ih =>
    obtain ⟨progress, due, haccounted, hlength⟩ := ih
    obtain ⟨progress', due', changes', haccounted', hadds⟩ := haccounted.step hP hT hs
    cases hadds with
    | quiet _ htold' => exact absurd htold' htold
    | changes _ _ _ htold' => exact absurd htold' htold
    | @tells n c s s' d _ hdue _ htold' =>
      obtain ⟨x, hx⟩ := List.length_eq_one_iff.1 hlength
      have hperm := Table.values_erase hdue
      rw [hx] at hperm
      obtain ⟨rfl, hrest⟩ := List.cons.inj (List.perm_singleton.1 hperm.symm)
      refine ⟨progress', due.erase n, ?_, by rw [hrest]; rfl⟩
      rw [hrest, List.append_nil, htold', ← hx]
      exact haccounted'

/-- In step, the journal tells of the changes as they were made. -/
theorem Announcing.tells_of_inStep (hP : P.Announcing) (hT : P.Tells T) (hb : P.inv b.store) (htold : b.told = [])
    (hstart : T [] b.store.book) (hw : Traffic.InStep P.act b false w) : T w.bank.told w.bank.store.book := by
  obtain ⟨progress, due, haccounted, hlength⟩ := hP.accounted_of_inStep hT hb htold hstart hw
  have htells := haccounted.tells
  rwa [List.eq_nil_of_length_eq_zero hlength, List.append_nil] at htells

/-- While one call goes on, at most its own change is due. -/
theorem Accounted.spell (hP : P.Announcing) (hT : P.Tells T) (h : P.Accounted T progress due changes w)
    (hdue : ∀ k, due.get? k = none) (hw : Traffic.InStep P.act b false w) (hs : Traffic.Spell P.act n w w') :
    ∃ progress' due' changes', P.Accounted T progress' due' changes' w' ∧ (∀ k, k ≠ n → due'.get? k = none) ∧
      Traffic.InStep P.act b (due'.get? n).isSome w' := by
  induction hs with
  | refl => exact ⟨progress, due, changes, h, fun k _ => hdue k, by rw [hdue n]; exact hw⟩
  | tail _ hstep ih =>
    obtain ⟨progress₁, due₁, changes₁, h₁, hothers, hin⟩ := ih
    obtain ⟨c, s, s', hstep⟩ := hstep
    obtain ⟨progress₂, due₂, changes₂, h₂, hadds⟩ := h₁.step hP hT hstep
    refine ⟨progress₂, due₂, changes₂, h₂, ?_⟩
    cases hadds with
    | quiet hbook htold => exact ⟨hothers, hin.quiet hstep hbook htold⟩
    | changes he hnone hbook =>
      cases he
      rw [hnone] at hin
      refine ⟨fun k hk => (Table.get?_put_of_ne hk _).trans (hothers k hk), ?_⟩
      rw [Table.get?_put_self]
      exact hin.change hstep hbook
    | @tells _ _ _ _ d he hd _ htold =>
      cases he
      rw [hd] at hin
      refine ⟨fun k hk => (Table.get?_erase_of_ne hk).trans (hothers k hk), ?_⟩
      rw [Table.get?_erase_self]
      exact hin.announcement hstep (by simp [htold])

/-- Calls that share a thread are in step whenever one of them waits or is over. -/
theorem Announcing.inStep (hP : P.Announcing) (hT : P.Tells T) (hb : P.inv b.store) (htold : b.told = [])
    (hstart : T [] b.store.book) (hw : Traffic.Shared P.act b w) : Traffic.InStep P.act b false w := by
  induction hw with
  | start => exact .start
  | @turn n w w' f _ hs hf hrest ih =>
    obtain ⟨progress, due, haccounted, hlength⟩ := hP.accounted_of_inStep hT hb htold hstart ih
    have hnone := Table.values_eq_nil_iff.1 (List.eq_nil_of_length_eq_zero hlength)
    obtain ⟨progress', due', changes', haccounted', -, hin⟩ := haccounted.spell hP hT hnone ih hs
    cases hd : due'.get? n with
    | none =>
      rw [hd] at hin
      exact hin
    | some d =>
      obtain ⟨f', hf', hnot⟩ := haccounted'.owes hP hd
      obtain rfl := Option.some.inj (hf.symm.trans hf')
      exact absurd hrest hnot
  | other _ hs he ih =>
    obtain ⟨hbook, htold'⟩ := hs.quiet_of_ne_move he
    exact ih.quiet hs hbook htold'

end Protocol

end Teller

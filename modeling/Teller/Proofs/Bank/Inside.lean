import Teller.Proofs.Bank.Only

/-!
# What the work in a unit leaves alone

The calls of a unit of work change no committed row, no other unit of work, and neither commit nor roll back.
A call that passes a point changes nothing of the store but its faults (`Bank.Passing`).
-/

namespace Teller

/-- The points at which units of work end. -/
def Point.Ends (p : Point) : Prop :=
  p = .commit ∨ p = .rollback

instance (p : Point) : Decidable p.Ends := by
  unfold Point.Ends
  infer_instance

namespace Faults

theorem rule?_setRule_of_ne {p q : Point} (h : p ≠ q) (f : Faults) (r : FailRule) :
    (f.setRule q r).rule? p = f.rule? p := by
  have hfilter : ∀ l : List (Point × FailRule),
      (l.filter fun a => decide (a.1 ≠ q)).lookup p = l.lookup p := by
    intro l
    induction l with
    | nil => rfl
    | cons a l ih =>
      obtain ⟨k, x⟩ := a
      by_cases hk : k = q
      · subst hk
        rw [List.filter_cons_of_neg (by simp), ih, List.lookup_cons, beq_false_of_ne h]
      · rw [List.filter_cons_of_pos (by simpa using hk), List.lookup_cons, List.lookup_cons, ih]
  show ((q, r) :: f.rules.filter _).lookup p = f.rules.lookup p
  rw [List.lookup_cons, beq_false_of_ne h]
  exact hfilter f.rules

theorem rule?_trip_of_ne {p q : Point} (h : p ≠ q) (f : Faults) : (f.trip q).2.rule? p = f.rule? p := by
  unfold trip
  split
  · rfl
  · exact rule?_setRule_of_ne h f _

end Faults

namespace Bank

/-- How often the point has been called since its rule was set; without a rule nobody counts. -/
def calls (b : Bank) (p : Point) : Option Nat :=
  (b.store.faults.rule? p).map (·.seen)

/-- Nothing of the store changes but its faults. -/
def Passing (b b' : Bank) : Prop :=
  ∃ faults, b'.store = { b.store with faults := faults }

/-- No row changes, and no unit of work is told to end. -/
structure Plain (b b' : Bank) : Prop where
  book : b'.store.book = b.store.book
  calls : ∀ p, p.Ends → b'.calls p = b.calls p

/-- Besides, all other units of work stay as they are. -/
structure Inside (u : Int) (b b' : Bank) : Prop extends Plain b b' where
  others : ∀ v, v ≠ u → b'.store.drafts.get? v = b.store.drafts.get? v

variable {u : Int} {b b' b'' : Bank} {s : Store} {p : Point}

theorem Passing.refl (b : Bank) : b.Passing b :=
  ⟨b.store.faults, rfl⟩

theorem Passing.trans (h : b.Passing b') (h' : b'.Passing b'') : b.Passing b'' := by
  obtain ⟨f, hf⟩ := h
  obtain ⟨f', hf'⟩ := h'
  exact ⟨f', by rw [hf', hf]⟩

theorem Plain.refl (b : Bank) : b.Plain b :=
  ⟨rfl, fun _ _ => rfl⟩

namespace Inside

theorem refl (u : Int) (b : Bank) : b.Inside u b :=
  ⟨.refl b, fun _ _ => rfl⟩

theorem trans (h : b.Inside u b') (h' : b'.Inside u b'') : b.Inside u b'' where
  book := h'.book.trans h.book
  calls p hp := (h'.calls p hp).trans (h.calls p hp)
  others v hv := (h'.others v hv).trans (h.others v hv)

theorem of_store (hbook : s.book = b.store.book) (hfaults : s.faults = b.store.faults)
    (hdrafts : ∀ v, v ≠ u → s.drafts.get? v = b.store.drafts.get? v) : b.Inside u { b with store := s } where
  book := hbook
  calls p _ := by
    show (s.faults.rule? p).map (·.seen) = (b.store.faults.rule? p).map (·.seen)
    rw [hfaults]
  others := hdrafts

theorem lock (u k : Int) (b : Bank) : b.Inside u { b with store := b.store.lock u k } := by
  unfold Store.lock
  dsimp only
  split
  · exact .refl u b
  · exact of_store rfl rfl fun v hv => Table.get?_put_of_ne hv _

theorem stageAccount (u : Int) (owner : String) (balance : Int) (currency : Currency) (b : Bank) :
    b.Inside u { b with store := (b.store.stageAccount u owner balance currency).2 } := by
  unfold Store.stageAccount
  dsimp only
  split
  · exact .refl u b
  · exact of_store rfl rfl fun v hv => Table.get?_put_of_ne hv _

theorem stageTransfer (u source target amount : Int) (b : Bank) :
    b.Inside u { b with store := (b.store.stageTransfer u source target amount).2 } := by
  unfold Store.stageTransfer
  split_ifs
  · exact .refl u b
  · exact .refl u b
  · exact .refl u b
  · exact of_store rfl rfl fun v hv => Table.get?_put_of_ne hv _

theorem stageEntry (u account amount : Int) (b : Bank) :
    b.Inside u { b with store := (b.store.stageEntry u account amount).2 } := by
  unfold Store.stageEntry
  split
  · exact .refl u b
  · exact of_store rfl rfl fun v hv => Table.get?_put_of_ne hv _

theorem adjust (u id delta : Int) (floor : Bool) (b : Bank) :
    b.Inside u { b with store := (b.store.adjust u id delta floor).2 } := by
  unfold Store.adjust
  split
  · exact .refl u b
  split
  · exact .refl u b
  · exact of_store rfl rfl fun v hv => Table.get?_put_of_ne hv _

end Inside

/-! ### Calls -/

open Attempt

variable {α : Type}

theorem passing_pass (p : Point) : (pass p).run.Only Passing fun r => r = .ok () ∨ r = .error (.injectedAt p) :=
  only_pass p .refl (fun _ => ⟨_, rfl⟩) fun b => ⟨b.store.faults, rfl⟩

theorem inside_pass (u : Int) (hp : ¬ p.Ends) : (pass p).run.Only (Inside u) fun _ => True := by
  refine (only_pass p (.refl u) (fun b => ⟨⟨rfl, fun q hq => ?_⟩, fun _ _ => rfl⟩)
    fun b => ⟨⟨rfl, fun _ _ => rfl⟩, fun _ _ => rfl⟩).mono (fun _ _ h => h) fun _ _ => trivial
  have hne : q ≠ p := fun h => hp (h ▸ hq)
  exact congrArg (Option.map FailRule.seen) (Faults.rule?_trip_of_ne hne b.store.faults)

theorem inside_adjustIn (u id delta : Int) (floor : Bool) :
    (adjustIn u id delta floor).run.Only (Inside u) fun _ => True := by
  refine only_seq (inside_pass u (by decide)) (fun _ _ => ?_) fun _ _ => trivial
  refine only_seq (only_onceFree (.refl u) (Inside.lock u id)) (fun _ _ => ?_) fun _ _ => trivial
  exact only_store (Inside.adjust u id delta floor)

theorem plain_beginUnit : beginUnit.run.Only Plain fun _ => True := by
  have hopen : (Act.store (·.openDraft)).Only Plain fun _ => True := fun b => ⟨⟨rfl, fun _ _ => rfl⟩, trivial⟩
  have hpass : (pass .opening).run.Only Plain fun _ => True :=
    (inside_pass 0 (by decide)).mono (fun _ _ h => h.toPlain) fun _ h => h
  refine only_seq (only_receive .refl) (fun _ _ => ?_) fun _ _ => trivial
  refine only_seq hpass (fun _ _ => ?_) fun _ _ => trivial
  exact only_sure.2 hopen

end Bank

namespace Work

open Bank

variable {α : Type}

theorem inside_run (u : Int) (work : Work α) : (work.run u).run.Only (Bank.Inside u) fun _ => True :=
  only_run (fun _ b => ⟨.refl u b, trivial⟩)
    (fun owner balance currency => only_staging (inside_pass u (by decide)) (Inside.stageAccount u owner balance currency))
    (fun source target amount => only_staging (inside_pass u (by decide)) (Inside.stageTransfer u source target amount))
    (fun account amount => only_staging (inside_pass u (by decide)) (Inside.stageEntry u account amount))
    (inside_adjustIn u) work

end Work

end Teller

import Teller.Bank.Pool
import Teller.Proofs.Bank.Stage

/-!
# Units of work among others

What each call of a unit of work does while others are at the bank: for each there is one lemma that
reduces the rules for the call to what holds in the states that it may end in. A wait never does more
than to let others go ahead.
-/

namespace Teller

/-- The failures that do not tell anything about the rows: a failure that was asked for, and a row
that stayed locked for too long. -/
def StoreError.Interrupts : StoreError → Prop
  | .injected _ => True
  | .lockTimeout _ => True
  | _ => False

/-- A step of a unit of work that makes no difference to the book. -/
structure Store.Staged (w : Option Int) (s s' : Store) : Prop where
  move : Store.Move w s s'
  book : s'.book = s.book
  next : s'.nextDraft = s.nextDraft

/-! ### Attempts -/

namespace Attempt

variable {γ ε δ α β : Type} {R : Rules Bank γ} {g : γ} {b : Bank}

theorem follows_bind {Q : γ → Except ε β → Bank → Prop} {m : Attempt ε α} {f : α → Attempt ε β} :
    (m >>= f).run.Follows R Q g b ↔ m.run.Follows R
      (fun g r b => match r with
        | .ok a => (f a).run.Follows R Q g b
        | .error e => Q g (.error e) b) g b := by
  rw [ExceptT.run_bind, Timed.follows_bind]
  refine ⟨fun h => h.mono ?_, fun h => h.mono ?_⟩ <;>
  · rintro g (e | a) b h <;> exact h

theorem follows_sure {Q : γ → Except ε α → Bank → Prop} {m : Act α} :
    (sure m : Attempt ε α).run.Follows R Q g b ↔ m.Follows R (fun g a b => Q g (.ok a) b) g b :=
  Timed.follows_bind

theorem follows_sure_bind {Q : γ → Except ε β → Bank → Prop} {m : Act α} {f : α → Attempt ε β} :
    (sure m >>= f).run.Follows R Q g b ↔ m.Follows R (fun g a b => (f a).run.Follows R Q g b) g b := by
  rw [follows_bind, follows_sure]

theorem follows_mapError {Q : γ → Except δ α → Bank → Prop} {m : Attempt ε α} {f : ε → δ} :
    (m.mapError f).run.Follows R Q g b ↔ m.run.Follows R (fun g r b => Q g (r.mapError f) b) g b :=
  Timed.follows_bind

end Attempt

namespace Store.Staged

variable {s : Store} {u k : Int} {d : Draft}

theorem lock (hu : s.drafts.get? u = some d) (hk : s.Free (some u) k) :
    Staged (some u) s (s.lock u k) := by
  refine ⟨.lock hu hk, ?_, ?_⟩ <;>
  · unfold Store.lock
    dsimp only
    split <;> rfl

theorem stageAccount (hu : s.drafts.get? u = some d) (owner : String) (balance : Int)
    (currency : Currency) : Staged (some u) s (s.stageAccount u owner balance currency).2 := by
  refine ⟨.stageAccount hu owner balance currency, ?_, ?_⟩ <;>
  · unfold Store.stageAccount
    dsimp only
    split <;> rfl

theorem stageTransfer (hu : s.drafts.get? u = some d) (source target amount : Int) :
    Staged (some u) s (s.stageTransfer u source target amount).2 := by
  refine ⟨.stageTransfer hu source target amount, ?_, ?_⟩ <;>
  · unfold Store.stageTransfer
    split_ifs <;> rfl

theorem stageEntry (hu : s.drafts.get? u = some d) (account amount : Int) :
    Staged (some u) s (s.stageEntry u account amount).2 := by
  refine ⟨.stageEntry hu account amount, ?_, ?_⟩ <;>
  · unfold Store.stageEntry
    split <;> rfl

theorem adjust (hu : s.drafts.get? u = some d) (hk : k ∈ d.locks) (delta : Int) (floor : Bool) :
    Staged (some u) s (s.adjust u k delta floor).2 := by
  refine ⟨.adjust hu hk delta floor, ?_, ?_⟩ <;>
  · unfold Store.adjust
    split
    · rfl
    split <;> rfl

end Store.Staged

/-! ### Steps that make no difference -/

/-- At a stage where the rules allow a call to look at the bank, to count that it passes a point and to
note that the point fails. -/
structure Rules.Casual {γ : Type} (R : Rules Bank γ) (g : γ) : Prop where
  trans : ∀ {b t t'}, R.others g b t → R.others g t t' → R.others g b t'
  look : ∀ {b t}, R.others g b t → R.own g t g t
  trip : ∀ {b t} (faults : Faults), R.others g b t →
    R.own g t g { t with store := { t.store with faults := faults } } ∧
      R.others g t { t with store := { t.store with faults := faults } }
  note : ∀ {b t} (p : Point), R.others g b t →
    R.own g t g { t with journal := .injectedFailure p :: t.journal } ∧
      R.others g t { t with journal := .injectedFailure p :: t.journal }

theorem Attempt.follows_receive {γ : Type} {R : Rules Bank γ} {g : γ} {b : Bank}
    {Q : γ → Except StoreError Unit → Bank → Prop} {request : Bank.Request} {row : Option Int}
    (hlook : ∀ t, R.others g b t → R.own g t g t) (h : ∀ r t, R.others g b t → Q g r t) :
    (Bank.receive request row).run.Follows R Q g b := by
  unfold Bank.receive
  rw [Attempt.follows_sure_bind]
  refine fun t ht => ⟨g, hlook t ht, ?_⟩
  dsimp only [Timed.Follows]
  cases t.refusal? request row with
  | none => exact h _ t ht
  | some e => exact h _ t ht

namespace Rules.Casual

variable {γ α : Type} {R : Rules Bank γ} {g : γ} {b : Bank} {k : Int}

theorem follows_look (hR : R.Casual g) {Q : γ → α → Bank → Prop} {f : Store → α}
    (h : ∀ t, R.others g b t → Q g (f t.store) t) : (Act.look f).Follows R Q g b :=
  fun t ht => ⟨g, hR.look ht, h t ht⟩

theorem follows_strike (hR : R.Casual g) {Q : γ → Except StoreError Unit → Bank → Prop} {p : Point}
    (h : ∀ r t, R.others g b t → r = .ok () ∨ r = .error (.injectedAt p) → Q g r t) :
    (Bank.strike p).run.Follows R Q g b := by
  unfold Bank.strike
  rw [Attempt.follows_sure_bind]
  intro t ht
  obtain ⟨hown, hothers⟩ := hR.trip (t.store.faults.trip p).2 ht
  have hlater := hR.trans ht hothers
  refine ⟨g, hown, ?_⟩
  dsimp only
  rcases t.store.trip_cases p with hr | hr <;> rw [hr]
  · exact h _ _ hlater (.inl rfl)
  · refine Attempt.follows_sure_bind.2 fun t' ht' => ?_
    obtain ⟨hown, hothers⟩ := hR.note p ht'
    exact ⟨g, hown, h _ _ (hR.trans (hR.trans hlater ht') hothers) (.inr rfl)⟩

/-- A point lets the call go on or fails; the store is as others may have left it. -/
theorem follows_pass (hR : R.Casual g) (hg : R.idle g) {Q : γ → Except StoreError Unit → Bank → Prop}
    {p : Point} (h : ∀ r t, R.others g b t → r = .ok () ∨ r = .error (.injectedAt p) → Q g r t) :
    (Bank.pass p).run.Follows R Q g b := by
  have hstrike : ∀ t, R.others g b t → (Bank.strike p).run.Follows R Q g t := fun t ht =>
    hR.follows_strike fun r t' ht' hr => h r t' (hR.trans ht ht') hr
  unfold Bank.pass
  rw [Attempt.follows_sure_bind]
  refine hR.follows_look fun t ht => ?_
  cases t.store.faults.delay? p with
  | none => exact hstrike t ht
  | some span =>
    refine Attempt.follows_sure_bind.2 ⟨hg, fun t' ht' => ⟨fun hf => (Bool.false_ne_true hf).elim, fun _ => ?_⟩⟩
    exact hstrike t' (hR.trans ht ht')

/-- A row is free in the end, or else the call waits in vain. -/
theorem follows_onceFree (hR : R.Casual g) (hg : R.idle g) {Q : γ → Except StoreError α → Bank → Prop}
    {w : Option Int} {f : Store → Except StoreError α × Store}
    (hf : ∀ t, R.others g b t → t.store.Free w k → ∃ g', R.own g t g'
      { t with store := (f t.store).2 } ∧ Q g' (f t.store).1 { t with store := (f t.store).2 })
    (hlate : ∀ t, R.others g b t → Q g (.error (.lockTimeout k)) t) :
    (Bank.onceFree w k f).run.Follows R Q g b := by
  unfold Bank.onceFree
  rw [Attempt.follows_sure_bind]
  refine hR.follows_look fun t ht =>
    ⟨hg, fun t' ht' => ⟨fun hr => ?_, fun _ => hlate t' (hR.trans ht ht')⟩⟩
  obtain ⟨g', hown, hq⟩ := hf t' (hR.trans ht ht') (of_decide_eq_true hr)
  exact ⟨g', hown, fun _ => hq⟩

end Rules.Casual

namespace Conduct

variable {ν α : Type} {C : Conduct ν} {g : Stage ν} {b : Bank} {u k : Int} {d : Draft}

/-! ### Single steps -/

theorem follows_look {Q : Stage ν → α → Bank → Prop} {f : Store → α}
    (h : ∀ t, C.rules.others g b t → Q g (f t.store) t) : (Act.look f).Follows C.rules Q g b :=
  fun t ht => ⟨g, ⟨ht.1, .refl g t⟩, h t ht⟩

theorem follows_read {ε : Type} {Q : Stage ν → Except ε α → Bank → Prop} {f : Store → Except ε α}
    (h : ∀ t, C.rules.others g b t → Q g (f t.store) t) : (Attempt.look f).run.Follows C.rules Q g b :=
  follows_look h

theorem own_staged (hI : Store.Invariant C.inv) {t : Bank} {s : Store} (ht : C.inv t.store)
    (hs : Store.Staged g.unit t.store s) : C.rules.own g t g { t with store := s } :=
  ⟨hI.quiet ht hs.move hs.book,
    .plain ⟨hs.book, rfl, fun _ h => List.cons_ne_self _ _ h.symm⟩ hs.move hs.next⟩

theorem follows_store (hI : Store.Invariant C.inv) {Q : Stage ν → α → Bank → Prop}
    {f : Store → α × Store} (h : ∀ t, C.rules.others g b t → Store.Staged g.unit t.store (f t.store).2 ∧
      Q g (f t.store).1 { t with store := (f t.store).2 }) : (Act.store f).Follows C.rules Q g b :=
  fun t ht => ⟨g, own_staged hI ht.1 (h t ht).1, (h t ht).2⟩

theorem follows_note {Q : Stage ν → Unit → Bank → Prop} {e : Event} (he : ∀ c, e ≠ .workFailed c)
    (h : ∀ t, C.rules.others g b t → Q g () { t with journal := e :: t.journal }) :
    (Act.note e).Follows C.rules Q g b := by
  intro t ht
  refine ⟨g, ⟨ht.1, .plain ⟨rfl, rfl, fun c hc => he c ?_⟩ (.setting _ _) rfl⟩, h t ht⟩
  exact (List.cons.inj hc).1

theorem casual (hI : Store.Invariant C.inv) (g : Stage ν) : C.rules.Casual g where
  trans := others_trans
  look ht := ⟨ht.1, .refl g _⟩
  trip {b t} faults ht := by
    have hmove : ∀ {w : Option Int}, Store.Move w t.store { t.store with faults := faults } :=
      .setting faults t.store.now
    have hinv := hI.quiet (w := none) ht.1 hmove rfl
    exact ⟨⟨hinv, .plain ⟨rfl, rfl, fun _ h => List.cons_ne_self _ _ h.symm⟩ hmove rfl⟩,
      others_setting hinv faults t.store.now rfl⟩
  note {b t} p ht := by
    refine ⟨⟨ht.1, .plain ⟨rfl, rfl, fun c hc => ?_⟩ (.setting _ _) rfl⟩,
      others_setting ht.1 t.store.faults t.store.now rfl⟩
    cases (List.cons.inj hc).1

/-! ### Steps of a unit of work -/

/-- A new entry or a new transfer is staged, unless the point fails. -/
theorem follows_staging (hI : Store.Invariant C.inv) {Q : Stage ν → Except StoreError α → Bank → Prop}
    {p : Point} {f : Store → Except StoreError α × Store} (hg : C.idle g)
    (hu : g.unit = some u) (hd : b.store.drafts.get? u = some d)
    (hf : ∀ t, C.rules.others g b t → t.store.drafts.get? u = some d →
      Store.Staged (some u) t.store (f t.store).2 ∧
        Q g (f t.store).1 { t with store := (f t.store).2 })
    (hfail : ∀ e t, C.rules.others g b t → e.Interrupts → Q g (.error e) t) :
    (do Bank.pass p; Attempt.store f : Attempt StoreError α).run.Follows C.rules Q g b := by
  rw [Attempt.follows_bind]
  refine (casual hI _).follows_pass hg fun r t ht hr => ?_
  rcases hr with rfl | rfl
  · refine follows_store hI fun t' ht' => ?_
    have hlater := others_trans ht ht'
    rw [hu]
    exact hf t' hlater ((hlater.2 u hu).draft.trans hd)
  · exact hfail _ t ht trivial

/-- A balance is adjusted under the row's lock, unless the point fails or the lock is not had. The
rows that were locked before are the same then. -/
theorem follows_adjustIn (hI : Store.Invariant C.inv)
    {Q : Stage ν → Except StoreError Account → Bank → Prop} {delta : Int} {floor : Bool}
    (hg : C.idle g) (hu : g.unit = some u) (hd : b.store.drafts.get? u = some d)
    (hk : k ∉ d.locks)
    (hadj : ∀ t : Bank, C.inv t.store →
      t.store.drafts.get? u = some { d with locks := k :: d.locks } →
      (∀ j a, j ∈ d.locks → b.store.book.accounts.get? j = some a →
        t.store.book.accounts.get? j = some a) →
      Q g (t.store.adjust u k delta floor).1 { t with store := (t.store.adjust u k delta floor).2 })
    (hfail : ∀ e t, C.rules.others g b t → e.Interrupts → Q g (.error e) t) :
    (Bank.adjustIn u k delta floor).run.Follows C.rules Q g b := by
  unfold Bank.adjustIn
  rw [Attempt.follows_bind]
  refine (casual hI _).follows_pass hg fun r t ht hr => ?_
  rcases hr with rfl | rfl
  · refine Attempt.follows_bind.2 ((casual hI _).follows_onceFree hg (fun t' ht' hfree => ?_) fun t' ht' =>
      hfail _ t' (others_trans ht ht') trivial)
    have hlater := others_trans ht ht'
    have hd' : t'.store.drafts.get? u = some d := (hlater.2 u hu).draft.trans hd
    refine ⟨g, own_staged hI ht'.1 (hu ▸ .lock hd' hfree), ?_⟩
    have hlock : (t'.store.lock u k) = t'.store.setDraft u { d with locks := k :: d.locks } := by
      simp only [Store.lock, Store.draft_eq hd', if_neg hk]
    have hlocked : (t'.store.lock u k).drafts.get? u = some { d with locks := k :: d.locks } := by
      rw [hlock, Store.setDraft, Table.get?_put_self]
    show Timed.Follows C.rules Q (Act.store (·.adjust u k delta floor)) g
      { t' with store := t'.store.lock u k }
    refine follows_store hI fun t'' ht'' => ?_
    have hd'' := (ht''.2 u hu).draft.trans hlocked
    refine ⟨hu ▸ .adjust hd'' List.mem_cons_self delta floor,
      hadj t'' ht''.1 hd'' fun j a hj ha => ?_⟩
    refine (ht''.2 u hu).row hlocked (List.mem_cons_of_mem k hj) ?_
    show (t'.store.lock u k).book.accounts.get? j = some a
    rw [hlock]
    exact (hlater.2 u hu).row hd hj ha
  · exact hfail _ t ht trivial

/-! ### Opening and ending -/

variable {x : Option ν}

theorem follows_receive {Q : Stage ν → Except StoreError Unit → Bank → Prop} {request : Bank.Request}
    {row : Option Int} (h : ∀ r t, C.rules.others g b t → Q g r t) :
    (Bank.receive request row).run.Follows C.rules Q g b :=
  Attempt.follows_receive (fun t ht => ⟨ht.1, .refl g t⟩) h

/-- A unit of work is opened with an empty draft, or the call fails. -/
theorem follows_beginUnit (hI : Store.Invariant C.inv)
    {Q : Stage ν → Except StoreError Int → Bank → Prop} (hg : C.idle ⟨none, x⟩)
    (hopen : ∀ u t, C.inv t.store → t.store.drafts.get? u = some .empty → Q ⟨some u, x⟩ (.ok u) t)
    (hfail : ∀ e t, Q ⟨none, x⟩ (.error e) t) :
    Bank.beginUnit.run.Follows C.rules Q ⟨none, x⟩ b := by
  unfold Bank.beginUnit Bank.openUnit
  rw [Attempt.follows_bind]
  refine follows_receive fun r t ht => ?_
  cases r with
  | error e => exact hfail e t
  | ok =>
    refine Attempt.follows_bind.2 ((casual hI _).follows_pass hg fun r t' ht' hr => ?_)
    rcases hr with rfl | rfl
    · refine Attempt.follows_sure.2 fun t'' ht'' => ?_
      have hinv := hI.quiet ht''.1 (.openDraft : Store.Move none _ _) rfl
      refine ⟨⟨some t''.store.nextDraft, x⟩, ⟨hinv, .opening⟩, hopen _ _ hinv ?_⟩
      exact Table.get?_put_self _ _ _
    · exact hfail _ t'

theorem follows_abandon (hI : Store.Invariant C.inv) {Q : Stage ν → Unit → Bank → Prop}
    (h : ∀ t, C.inv t.store → Q ⟨none, x⟩ () t) :
    (Bank.abandon u).Follows C.rules Q ⟨some u, x⟩ b := by
  intro t ht
  have hinv := hI.quiet ht.1 (.discard u) rfl
  exact ⟨⟨none, x⟩, ⟨hinv, .closing⟩, h _ hinv⟩

/-- A unit of work publishes its draft, or the point fails and the unit is over. -/
theorem follows_commit (hI : Store.Invariant C.inv) {Q : Stage ν → Except StoreError Unit → Bank → Prop}
    (hg : C.idle ⟨some u, x⟩)
    (hpublish : ∀ t, C.rules.others ⟨some u, x⟩ b t → ∃ g', C.rules.own ⟨some u, x⟩ t g'
      { t with store := (t.store.publish u).2 } ∧
        Q g' (t.store.publish u).1 { t with store := (t.store.publish u).2 })
    (hfail : ∀ t, Q ⟨none, x⟩ (.error (.injectedAt .commit)) t) :
    (Bank.commit u).run.Follows C.rules Q ⟨some u, x⟩ b := by
  unfold Bank.commit
  rw [Attempt.follows_sure_bind]
  refine (casual hI _).follows_pass hg fun r t ht hr => ?_
  rcases hr with rfl | rfl
  · intro t' ht'
    exact hpublish t' (others_trans ht ht')
  · exact Attempt.follows_sure_bind.2 (follows_abandon hI fun t' _ => hfail t')

/-- A unit of work is over, whether or not the point fails. -/
theorem follows_rollback (hI : Store.Invariant C.inv)
    {Q : Stage ν → Except StoreError Unit → Bank → Prop} (hg : C.idle ⟨some u, x⟩)
    (h : ∀ r t, r = .ok () ∨ r = .error (.injectedAt .rollback) → Q ⟨none, x⟩ r t) :
    (Bank.rollback u).run.Follows C.rules Q ⟨some u, x⟩ b := by
  unfold Bank.rollback
  rw [Attempt.follows_sure_bind]
  refine (casual hI _).follows_pass hg fun r t ht hr => ?_
  refine Attempt.follows_sure_bind.2 (follows_abandon hI fun t' _ => ?_)
  rcases hr with rfl | rfl
  · exact h _ t' (.inl rfl)
  · exact h _ t' (.inr rfl)

end Conduct

end Teller

import Teller.Bank.Pool
import Teller.Proofs.Bank.Unit
import Teller.Proofs.Store.Outcome

/-!
# Primitives

The calls from which units of work are made, one by one: whoever has a unit open may make any of them
in any order. A primitive takes effect in the step that answers it (`Primitive.Answers`); before that it
only counts the points that it passes and locks its row (`Store.Silent`). Nobody else touches its unit
meanwhile, and that is all it needs to know about the others (`Primitive.follows`).
-/

namespace Teller

/-- A call that begins or ends a unit of work, a call of a unit of work, or the removal of an account. -/
inductive Primitive where
  | beginUnit
  | readAccount (unit id : Int)
  | openAccount (unit : Int) (owner : String) (balance : Int) (currency : Currency)
  | writeTransfer (unit source target amount : Int)
  | writeEntry (unit account amount : Int)
  | adjust (unit id delta : Int) (floor : Bool)
  | commit (unit : Int)
  | rollback (unit : Int)
  | deleteAccount (id : Int)

inductive Answer where
  | unit (r : Except StoreError Int)
  | account (r : Except StoreError Account)
  | transfer (r : Except StoreError Transfer)
  | entry (r : Except StoreError Entry)
  | done (r : Except StoreError Unit)

/-- A primitive that has been answered, with the store as it was before that step. -/
structure Answered where
  primitive : Primitive
  answer : Answer
  store : Store

def Answer.Failed : Answer → Prop
  | .unit (.error _) => True
  | .account (.error _) => True
  | .transfer (.error _) => True
  | .entry (.error _) => True
  | .done (.error _) => True
  | _ => False

theorem Answer.Failed.cases {x : Answer} (hx : x.Failed) : ∃ e, x = .unit (.error e) ∨
    x = .account (.error e) ∨ x = .transfer (.error e) ∨ x = .entry (.error e) ∨ x = .done (.error e) := by
  rcases x with (e | a) | (e | a) | (e | a) | (e | a) | (e | a)
  all_goals first
    | exact hx.elim
    | exact ⟨e, by simp⟩

namespace Primitive

/-- The unit of work that the call is made in. -/
def unit? : Primitive → Option Int
  | .readAccount u _ => some u
  | .openAccount u _ _ _ => some u
  | .writeTransfer u _ _ _ => some u
  | .writeEntry u _ _ => some u
  | .adjust u _ _ _ => some u
  | .commit u => some u
  | .rollback u => some u
  | .beginUnit => none
  | .deleteAccount _ => none

/-- The unit of work that is given up to the call, so it ends with the call even if that is dropped. -/
def taken? : Primitive → Option Int
  | .commit u => some u
  | .rollback u => some u
  | _ => none

/-- What the bank does for the call. -/
def act : Primitive → Act Answer
  | .beginUnit => do return .unit (← Bank.beginUnit.outcome)
  | .readAccount u id => do return .account (← (Bank.accountIn u id).outcome)
  | .openAccount u owner balance currency => do
    return .account (← (Bank.openAccountIn u owner balance currency).outcome)
  | .writeTransfer u source target amount => do
    return .transfer (← (Bank.writeTransferIn u source target amount).outcome)
  | .writeEntry u account amount => do return .entry (← (Bank.writeEntryIn u account amount).outcome)
  | .adjust u id delta floor => do return .account (← (Bank.adjustIn u id delta floor).outcome)
  | .commit u => do return .done (← (Bank.commit u).outcome)
  | .rollback u => do return .done (← (Bank.rollback u).outcome)
  | .deleteAccount id => do return .done (← (Bank.deleteAccount id).outcome)

/-- The step that answers a primitive, as far as the store is concerned. -/
inductive Answers : Primitive → Answer → Store → Store → Prop
  | beginUnit {s : Store} : Answers .beginUnit (.unit (.ok s.openDraft.1)) s s.openDraft.2
  | readAccount {s : Store} {u : Int} (id : Int) : Answers (.readAccount u id) (.account (s.seen u id)) s s
  | openAccount {s : Store} {u : Int} {d : Draft} (hu : s.drafts.get? u = some d) (owner : String)
    (balance : Int) (currency : Currency) : Answers (.openAccount u owner balance currency)
      (.account (s.stageAccount u owner balance currency).1) s (s.stageAccount u owner balance currency).2
  | writeTransfer {s : Store} {u : Int} {d : Draft} (hu : s.drafts.get? u = some d)
    (source target amount : Int) : Answers (.writeTransfer u source target amount)
      (.transfer (s.stageTransfer u source target amount).1) s (s.stageTransfer u source target amount).2
  | writeEntry {s : Store} {u : Int} {d : Draft} (hu : s.drafts.get? u = some d) (account amount : Int) :
    Answers (.writeEntry u account amount) (.entry (s.stageEntry u account amount).1) s
      (s.stageEntry u account amount).2
  | adjust {s : Store} {u k : Int} {d : Draft} (hu : s.drafts.get? u = some d) (hk : k ∈ d.locks)
    (delta : Int) (floor : Bool) : Answers (.adjust u k delta floor)
      (.account (s.adjust u k delta floor).1) s (s.adjust u k delta floor).2
  | commit {s : Store} {u : Int} {d : Draft} (hu : s.drafts.get? u = some d) :
    Answers (.commit u) (.done (s.publish u).1) s (s.publish u).2
  /-- The commit failed at its point, and the unit of work is over. -/
  | uncommitted {s : Store} {u : Int} (e : StoreError) :
    Answers (.commit u) (.done (.error e)) s (s.discard u)
  | rollback {s : Store} {u : Int} (r : Except StoreError Unit) :
    Answers (.rollback u) (.done r) s (s.discard u)
  | deleteAccount {s : Store} {id : Int} (hid : s.Free none id) :
    Answers (.deleteAccount id) (.done (s.remove id).1) s (s.remove id).2

end Primitive

/-- A step that answers nothing, on behalf of a unit of work or of none. -/
inductive Store.Silent : Option Int → Store → Store → Prop
  | setting {w : Option Int} {s : Store} (faults : Faults) (now : Time.Instant) :
    Silent w s { s with faults := faults, now := now }
  | lock {s : Store} {u k : Int} {d : Draft} (hu : s.drafts.get? u = some d) (hk : s.Free (some u) k) :
    Silent (some u) s (s.lock u k)
  | discard {s : Store} (u : Int) : Silent (some u) s (s.discard u)

/-- A step of the store on behalf of a unit of work, or of none, and what is answered by it. -/
inductive Store.Deed : Option Int → List Answered → Store → Store → Prop
  | silent {w : Option Int} {s s' : Store} (h : Silent w s s') : Deed w [] s s'
  | failed {w : Option Int} {s s' : Store} {p : Primitive} {x : Answer} (hx : x.Failed) (h : Silent w s s') :
    Deed w [⟨p, x, s⟩] s s'
  | answer {s s' : Store} {p : Primitive} {x : Answer} (h : p.Answers x s s') :
    Deed p.unit? [⟨p, x, s⟩] s s'

namespace Store

variable {w : Option Int} {s s' : Store}

theorem Silent.refl (w : Option Int) (s : Store) : Silent w s s :=
  .setting s.faults s.now

theorem Silent.move (h : Silent w s s') : Move w s s' := by
  cases h with
  | setting faults now => exact .setting faults now
  | lock hu hk => exact .lock hu hk
  | discard u => exact .discard u

end Store

theorem Primitive.Answers.move {p : Primitive} {x : Answer} {s s' : Store} (h : p.Answers x s s') :
    Store.Move p.unit? s s' := by
  cases h with
  | beginUnit => exact .openDraft
  | readAccount id => exact .setting s.faults s.now
  | openAccount hu owner balance currency => exact .stageAccount hu owner balance currency
  | writeTransfer hu source target amount => exact .stageTransfer hu source target amount
  | writeEntry hu account amount => exact .stageEntry hu account amount
  | adjust hu hk delta floor => exact .adjust hu hk delta floor
  | commit hu => exact .publish hu
  | uncommitted e => exact .discard _
  | rollback r => exact .discard _
  | deleteAccount hid => exact .remove hid

theorem Store.Deed.move {w : Option Int} {l : List Answered} {s s' : Store} (h : Store.Deed w l s s') :
    Store.Move w s s' := by
  cases h with
  | silent h => exact h.move
  | failed hx h => exact h.move
  | answer h => exact h.move

namespace Primitive

variable {α : Type} {p : Primitive} {b : Bank} {u : Int} {d : Draft}

theorem unit?_of_taken? (h : p.taken? = some u) : p.unit? = some u := by
  cases p with
  | commit v => exact h
  | rollback v => exact h
  | _ => cases h

/-- A call is dropped, with the unit of work that was given up to it. -/
theorem silent_taken (p : Primitive) (s : Store) : Store.Silent p.unit? s (p.taken?.elim s s.discard) := by
  cases hu : p.taken? with
  | none => exact .refl _ _
  | some u =>
    rw [p.unit?_of_taken? hu]
    exact .discard u

/-- What a primitive may do: silent steps, and then the one that answers it. -/
def rules (p : Primitive) : Rules Bank (Option Answer) where
  others _ b b' := b'.store.Sound ∧ ∀ u, p.unit? = some u → b.store.Untouched u b'.store
  own g b g' b' := g = none ∧ b'.store.Sound ∧ match g' with
    | none => Store.Silent p.unit? b.store b'.store
    | some x => p.Answers x b.store b'.store
  idle g := g = none

/-- The primitive has been answered, or it ends with a failure without having done anything. -/
def Told (g : Option Answer) (x : Answer) : Prop :=
  g = some x ∨ g = none ∧ x.Failed

theorem others_trans {g : Option Answer} {b b' b'' : Bank} (h : p.rules.others g b b')
    (h' : p.rules.others g b' b'') : p.rules.others g b b'' :=
  ⟨h'.1, fun u hu => (h.2 u hu).trans (h'.2 u hu)⟩

theorem others_of_eq {g : Option Answer} {b b' : Bank} (hs : b'.store.Sound)
    (hbook : b'.store.book = b.store.book) (hdrafts : b'.store.drafts = b.store.drafts) :
    p.rules.others g b b' :=
  ⟨hs, fun _ _ => .of_book hbook (hdrafts ▸ rfl)⟩

theorem casual (p : Primitive) : p.rules.Casual none where
  trans := others_trans
  look ht := ⟨rfl, ht.1, .refl _ _⟩
  trip {b t} faults ht := by
    have hsilent : Store.Silent p.unit? t.store { t.store with faults := faults } := .setting faults t.store.now
    have hs := hsilent.move.sound ht.1
    exact ⟨⟨rfl, hs, hsilent⟩, others_of_eq hs rfl rfl⟩
  note q ht := ⟨⟨rfl, ht.1, .refl _ _⟩, others_of_eq ht.1 rfl rfl⟩

theorem follows_answer {Q : Option Answer → α → Bank → Prop} {f : Store → α × Store} (wrap : α → Answer)
    (hstep : ∀ t, p.rules.others none b t → p.Answers (wrap (f t.store).1) t.store (f t.store).2)
    (hQ : ∀ r t, Q (some (wrap r)) r t) : (Act.store f).Follows p.rules Q none b := by
  intro t ht
  have hanswer := hstep t ht
  exact ⟨some (wrap (f t.store).1), ⟨rfl, hanswer.move.sound ht.1, hanswer⟩, hQ _ _⟩

theorem draft_of_others {t : Bank} (ht : p.rules.others none b t) (hu : p.unit? = some u)
    (hd : b.store.drafts.get? u = some d) : t.store.drafts.get? u = some d :=
  (ht.2 u hu).draft.trans hd

theorem follows_staging {q : Point} {f : Store → Except StoreError α × Store}
    (wrap : Except StoreError α → Answer)
    (hwrap : ∀ e, (wrap (.error e)).Failed) (hu : p.unit? = some u) (hd : b.store.drafts.get? u = some d)
    (hstep : ∀ s : Store, s.drafts.get? u = some d → p.Answers (wrap (f s).1) s (f s).2) :
    (do Bank.pass q; Attempt.store f : Attempt StoreError α).run.Follows p.rules
      (fun g r _ => Told g (wrap r)) none b := by
  refine Attempt.follows_bind.2 (p.casual.follows_pass rfl fun r t ht hr => ?_)
  rcases hr with rfl | rfl
  · refine follows_answer wrap (fun t' ht' => ?_) fun _ _ => .inl rfl
    exact hstep t'.store (draft_of_others (others_trans ht ht') hu hd)
  · exact .inr ⟨rfl, hwrap _⟩

theorem follows_adjust {k delta : Int} {floor : Bool} (hd : b.store.drafts.get? u = some d) :
    (Bank.adjustIn u k delta floor).run.Follows (adjust u k delta floor).rules
      (fun g r _ => Told g (.account r)) none b := by
  unfold Bank.adjustIn
  refine Attempt.follows_bind.2 ((casual _).follows_pass rfl fun r t ht hr => ?_)
  rcases hr with rfl | rfl
  · refine Attempt.follows_bind.2 ((casual _).follows_onceFree rfl (fun t' ht' hfree => ?_)
      fun t' ht' => .inr ⟨rfl, trivial⟩)
    have hd' := draft_of_others (others_trans ht ht') rfl hd
    have hsilent : Store.Silent (some u) t'.store (t'.store.lock u k) := .lock hd' hfree
    refine ⟨none, ⟨rfl, hsilent.move.sound ht'.1, hsilent⟩, ?_⟩
    -- from now on the row is locked, also when its balance is adjusted
    obtain ⟨e, he, hk⟩ : ∃ e, (t'.store.lock u k).drafts.get? u = some e ∧ k ∈ e.locks := by
      rcases Store.lock_cases hd' k with ⟨hk, heq⟩ | ⟨-, heq⟩ <;> rw [heq]
      · exact ⟨d, hd', hk⟩
      · exact ⟨_, Table.get?_put_self _ _ _, List.mem_cons_self⟩
    show Timed.Follows _ _ (Act.store (·.adjust u k delta floor)) none { t' with store := t'.store.lock u k }
    refine follows_answer .account (fun t'' ht'' => ?_) fun _ _ => .inl rfl
    have he' := draft_of_others (b := { t' with store := t'.store.lock u k }) ht'' rfl he
    exact .adjust he' hk delta floor
  · exact .inr ⟨rfl, trivial⟩

theorem follows_commit (hd : b.store.drafts.get? u = some d) :
    (Bank.commit u).run.Follows (commit u).rules (fun g r _ => Told g (.done r)) none b := by
  unfold Bank.commit
  refine Attempt.follows_sure_bind.2 ((casual _).follows_pass rfl fun r t ht hr => ?_)
  rcases hr with rfl | rfl
  · show Timed.Follows _ _ (Act.store (·.publish u)) none t
    refine follows_answer .done (fun t' ht' => ?_) fun _ _ => .inl rfl
    exact .commit (draft_of_others (others_trans ht ht') rfl hd)
  · refine Attempt.follows_sure_bind.2 (follows_answer (fun _ => .done (.error (.injectedAt .commit)))
      (fun t' _ => .uncommitted _) fun _ _ => .inl rfl)

theorem follows_rollback : (Bank.rollback u).run.Follows (rollback u).rules
    (fun g r _ => Told g (.done r)) none b := by
  unfold Bank.rollback
  refine Attempt.follows_sure_bind.2 ((casual _).follows_pass rfl fun r t ht hr => ?_)
  refine Attempt.follows_sure_bind.2 (follows_answer (fun _ => .done r)
    (fun t' _ => .rollback r) fun _ _ => ?_)
  cases r with
  | ok => exact .inl rfl
  | error e => exact .inl rfl

theorem follows_beginUnit : Bank.beginUnit.run.Follows beginUnit.rules
    (fun g r _ => Told g (.unit r)) none b := by
  unfold Bank.beginUnit Bank.openUnit
  refine Attempt.follows_bind.2 (Attempt.follows_receive (fun t ht => (casual _).look ht) fun r t ht => ?_)
  cases r with
  | error e => exact .inr ⟨rfl, trivial⟩
  | ok =>
    refine Attempt.follows_bind.2 ((casual _).follows_pass rfl fun r t' ht' hr => ?_)
    rcases hr with rfl | rfl
    · exact Attempt.follows_sure.2 (follows_answer (fun u => .unit (.ok u)) (fun t'' _ => .beginUnit)
        fun _ _ => .inl rfl)
    · exact .inr ⟨rfl, trivial⟩

theorem follows_deleteAccount {id : Int} : (Bank.deleteAccount id).run.Follows (deleteAccount id).rules
    (fun g r _ => Told g (.done r)) none b := by
  unfold Bank.deleteAccount
  refine Attempt.follows_bind.2 (Attempt.follows_receive (fun t ht => (casual _).look ht) fun r t ht => ?_)
  cases r with
  | error e => exact .inr ⟨rfl, trivial⟩
  | ok =>
    refine (casual _).follows_onceFree rfl (fun t' ht' hfree => ?_) fun t' ht' => .inr ⟨rfl, trivial⟩
    have hanswer : (deleteAccount id).Answers _ t'.store _ := .deleteAccount hfree
    exact ⟨some _, ⟨rfl, hanswer.move.sound ht'.1, hanswer⟩, .inl rfl⟩

/-- A primitive keeps to its rules if its unit of work is open. -/
theorem follows (p : Primitive) (hopen : ∀ u, p.unit? = some u → ∃ d, b.store.drafts.get? u = some d) :
    p.act.Follows p.rules (fun g x _ => Told g x) none b := by
  cases p with
  | beginUnit => exact Timed.follows_bind.2 follows_beginUnit
  | readAccount u id =>
    refine Timed.follows_bind.2 ?_
    show Timed.Follows _ _ (Act.look (·.seen u id)) none b
    exact follows_answer .account (fun t _ => .readAccount id) fun _ _ => .inl rfl
  | openAccount u owner balance currency =>
    obtain ⟨d, hd⟩ := hopen u rfl
    exact Timed.follows_bind.2 (follows_staging .account (fun _ => trivial) rfl hd
      fun s hs => .openAccount hs owner balance currency)
  | writeTransfer u source target amount =>
    obtain ⟨d, hd⟩ := hopen u rfl
    exact Timed.follows_bind.2 (follows_staging .transfer (fun _ => trivial) rfl hd
      fun s hs => .writeTransfer hs source target amount)
  | writeEntry u account amount =>
    obtain ⟨d, hd⟩ := hopen u rfl
    exact Timed.follows_bind.2 (follows_staging .entry (fun _ => trivial) rfl hd
      fun s hs => .writeEntry hs account amount)
  | adjust u k delta floor =>
    obtain ⟨d, hd⟩ := hopen u rfl
    exact Timed.follows_bind.2 (follows_adjust hd)
  | commit u =>
    obtain ⟨d, hd⟩ := hopen u rfl
    exact Timed.follows_bind.2 (follows_commit hd)
  | rollback u => exact Timed.follows_bind.2 follows_rollback
  | deleteAccount id => exact Timed.follows_bind.2 follows_deleteAccount

end Primitive

end Teller

import Teller.Proofs.Bank.Climb
import Teller.Proofs.Bank.Only
import Teller.Proofs.Bank.Primitive
import Teller.Proofs.Store.Lock

/-!
# Rows are locked on demand

`Timed.Asks`: in a computation, a unit of work locks no row but one whose balance it has been asked to adjust, in
this step or before. Like `Timed.Climbs` that is a property of the computation alone, so it goes down its tree; what
has been asked for is collected on the way.
-/

namespace Teller

/-- Units of work have no rows locked but those that they had before, and such as `P` says. -/
def Store.Locks (P : Int → Int → Prop) (s s' : Store) : Prop :=
  ∀ u k, s'.Locked u k → s.Locked u k ∨ P u k

/-- No rows are locked but such as `P` says. -/
def Timed.Locking {α : Type} (m : Timed Bank α) (P : Int → Int → Prop) : Prop :=
  m.Only (fun b b' => b.store.Locks P b'.store) fun _ => True

/-- What is to be done next is to adjust the account's balance in the unit of work, whatever comes afterwards and
however long that may take. -/
inductive Bank.Adjusting (u k : Int) : {α : Type} → Act α → Prop
  | call (delta : Int) (floor : Bool) : Adjusting u k (adjustIn u k delta floor).run
  | bind {α β : Type} {m : Act α} (h : Adjusting u k m) (f : α → Act β) : Adjusting u k (m >>= f)
  | within {α : Type} {m : Act α} (h : Adjusting u k m) (limit : Time.Span) : Adjusting u k (m.within limit)

variable {α β : Type} {asked asked' : Int → Int → Prop}

/-- What has been asked for once this is to be done next. -/
def Act.asking (m : Act α) (asked : Int → Int → Prop) : Int → Int → Prop :=
  fun u k => asked u k ∨ Bank.Adjusting u k m

/-- Every step locks only rows that have been asked for. -/
def Timed.Asks : Timed Bank α → (Int → Int → Prop) → Prop
  | .done _, _ => True
  | .act change next, asked => ∀ b : Bank, b.store.Locks (Act.asking (.act change next) asked) (change b).store ∧
    (next b).Asks (Act.asking (.act change next) asked)
  | .wait span ready change next late, asked =>
    (∀ b : Bank, ready b = true →
      b.store.Locks (Act.asking (.wait span ready change next late) asked) (change b).store ∧
        ∀ d, (next b d).Asks (Act.asking (.wait span ready change next late) asked)) ∧
    ∀ d, (late d).Asks (Act.asking (.wait span ready change next late) asked)

namespace Store

variable {s s' : Store} {P Q : Int → Int → Prop}

theorem Locks.refl (s : Store) : Locks P s s :=
  fun _ _ h => .inl h

theorem Locks.mono (h : Locks P s s') (hPQ : ∀ u k, P u k → Q u k) : Locks Q s s' :=
  fun u k hk => (h u k hk).imp_right (hPQ u k)

theorem LocksOnly.locks (h : LocksOnly [] s s') : Locks P s s' := by
  rintro u k ⟨d, hu, hk⟩
  rcases h u d k hu hk with hnew | hold
  · cases hnew
  · exact .inl hold

theorem locks_lock (s : Store) (u k : Int) : Locks (fun v j => v = u ∧ j = k) s (s.lock u k) := by
  rintro v j ⟨d, hv, hj⟩
  unfold lock at hv
  dsimp only at hv
  split at hv
  · exact .inl ⟨d, hv, hj⟩
  · rcases Table.get?_put_eq_some_iff.1 hv with ⟨rfl, rfl⟩ | ⟨-, hv⟩
    · rcases List.mem_cons.1 hj with rfl | hj
      · exact .inr ⟨rfl, rfl⟩
      · refine .inl ?_
        cases hd : s.drafts.get? v with
        | none =>
          rw [draft, hd] at hj
          cases hj
        | some d =>
          rw [draft_eq hd] at hj
          exact ⟨d, hd, hj⟩
    · exact .inl ⟨d, hv, hj⟩

end Store

theorem Act.asking_mono (hmono : ∀ u k, asked u k → asked' u k) (m : Act α) :
    ∀ u k, m.asking asked u k → m.asking asked' u k :=
  fun u k => Or.imp_left (hmono u k)

namespace Timed

variable {m n : Timed Bank α} {b b' : Bank} {u k : Int}

theorem Asks.mono (h : m.Asks asked) (hmono : ∀ u k, asked u k → asked' u k) : m.Asks asked' := by
  induction m generalizing asked asked' with
  | done a => trivial
  | act change next ih =>
    intro b
    obtain ⟨hlocks, hnext⟩ := h b
    exact ⟨hlocks.mono (Act.asking_mono hmono _), ih b hnext (Act.asking_mono hmono _)⟩
  | wait span ready change next late ihNext ihLate =>
    refine ⟨fun b hr => ?_, fun d => ihLate d (h.2 d) (Act.asking_mono hmono _)⟩
    obtain ⟨hlocks, hnext⟩ := h.1 b hr
    exact ⟨hlocks.mono (Act.asking_mono hmono _), fun d => ihNext b d (hnext d) (Act.asking_mono hmono _)⟩

/-- What is asked for in the first step need not have been asked for before. -/
theorem Asks.of_asking (h : m.Asks (Act.asking m asked)) : m.Asks asked := by
  have hidem : ∀ {m : Timed Bank α} u k, Act.asking m (Act.asking m asked) u k → Act.asking m asked u k :=
    fun u k h => h.elim id .inr
  cases m with
  | done a => trivial
  | act change next => exact fun b => ⟨(h b).1.mono hidem, (h b).2.mono hidem⟩
  | wait span ready change next late =>
    refine ⟨fun b hr => ?_, fun d => (h.2 d).mono hidem⟩
    obtain ⟨hlocks, hnext⟩ := h.1 b hr
    exact ⟨hlocks.mono hidem, fun d => (hnext d).mono hidem⟩

theorem Locking.asks (h : m.Locking asked) : m.Asks asked := by
  unfold Locking at h
  induction m with
  | done a => trivial
  | act change next ih =>
    intro b
    obtain ⟨hlocks, hnext⟩ := h b
    exact ⟨hlocks.mono fun _ _ => .inl, (ih b hnext).mono fun _ _ => .inl⟩
  | wait span ready change next late ihNext ihLate =>
    refine ⟨fun b hr => ?_, fun d => (ihLate d (h.2 d)).mono fun _ _ => .inl⟩
    obtain ⟨hlocks, hnext⟩ := h.1 b hr
    exact ⟨hlocks.mono fun _ _ => .inl, fun d => (ihNext b d (hnext d)).mono fun _ _ => .inl⟩

theorem Asks.bind {f : α → Timed Bank β} (h : m.Asks asked) (hf : ∀ a asked, (f a).Asks asked) :
    (m >>= f).Asks asked := by
  have hasking : ∀ (m : Timed Bank α) asked u k, Act.asking m asked u k → Act.asking (m >>= f) asked u k :=
    fun m asked u k => Or.imp_right fun h => .bind h f
  induction m generalizing asked with
  | done a => exact hf a asked
  | act change next ih =>
    intro b
    obtain ⟨hlocks, hnext⟩ := h b
    exact ⟨hlocks.mono (hasking _ _), (ih b hnext).mono (hasking (.act change next) asked)⟩
  | wait span ready change next late ihNext ihLate =>
    have hwait := hasking (.wait span ready change next late) asked
    refine ⟨fun b hr => ?_, fun d => (ihLate d (h.2 d)).mono hwait⟩
    obtain ⟨hlocks, hnext⟩ := h.1 b hr
    exact ⟨hlocks.mono hwait, fun d => (ihNext b d (hnext d)).mono hwait⟩

theorem Asks.within (h : m.Asks asked) (limit : Time.Span) : (m.within limit).Asks asked := by
  have hasking : ∀ (m : Timed Bank α) limit asked u k, Act.asking m asked u k → Act.asking (m.within limit) asked u k :=
    fun m limit asked u k => Or.imp_right fun h => .within h limit
  induction m generalizing asked limit with
  | done a => trivial
  | act change next ih =>
    intro b
    obtain ⟨hlocks, hnext⟩ := h b
    exact ⟨hlocks.mono (hasking _ limit _), (ih b hnext limit).mono (hasking (.act change next) limit asked)⟩
  | wait span ready change next late ihNext ihLate =>
    have hwait := hasking (.wait span ready change next late) limit asked
    refine ⟨fun b hr => ?_, fun d => ?_⟩
    · obtain ⟨hlocks, hnext⟩ := h.1 b hr
      exact ⟨hlocks.mono hwait, fun d => (ihNext b d (hnext d) (limit - d)).mono hwait⟩
    · show Asks (if span ≤ limit ∧ d ≤ limit then _ else _) _
      split
      · exact (ihLate d (h.2 d) (limit - d)).mono hwait
      · trivial

theorem Asks.step (h : m.Asks asked) (hs : Step m b n b') :
    b.store.Locks (Act.asking m asked) b'.store ∧ n.Asks (Act.asking m asked) := by
  cases hs with
  | act => exact h b
  | ready hr d => exact ⟨(h.1 b hr).1, (h.1 b hr).2 d⟩
  | late d => exact ⟨.refl b.store, h.2 d⟩

theorem Locking.mono (h : m.Locking asked) (hmono : ∀ u k, asked u k → asked' u k) : m.Locking asked' :=
  Only.mono h (fun _ _ hlocks => hlocks.mono hmono) fun _ h => h

theorem Locking.bind {f : α → Timed Bank β} (h : m.Locking asked) (hf : ∀ a, (f a).Locking asked) :
    (m >>= f).Locking asked :=
  only_bind.2 (Only.mono h (fun _ _ h => h) fun a _ => hf a)

theorem Locking.step (h : m.Locking asked) (hs : Step m b n b') : b.store.Locks asked b'.store ∧ n.Locking asked := by
  cases hs with
  | act => exact h b
  | ready hr d => exact ⟨(h.1 b hr).1, (h.1 b hr).2 d⟩
  | late d => exact ⟨.refl b.store, h.2 d⟩

end Timed

namespace Attempt

variable {ε δ : Type}

theorem locking_bind {m : Attempt ε α} {f : α → Attempt ε β} (h : m.run.Locking asked)
    (hf : ∀ a, (f a).run.Locking asked) : (m >>= f).run.Locking asked :=
  only_seq h (fun a _ => hf a) fun _ _ => trivial

theorem locking_sure_bind {m : Act α} {f : α → Attempt ε β} (h : m.Locking asked)
    (hf : ∀ a, (f a).run.Locking asked) : (sure m >>= f).run.Locking asked :=
  only_sure_seq h fun a _ => hf a

theorem locking_mapError {m : Attempt ε α} (h : m.run.Locking asked) (f : ε → δ) : (m.mapError f).run.Locking asked :=
  h.bind fun _ => trivial

theorem asks_bind {m : Attempt ε α} {f : α → Attempt ε β} (h : m.run.Asks asked)
    (hf : ∀ a asked, (f a).run.Asks asked) : (m >>= f).run.Asks asked := by
  rw [ExceptT.run_bind]
  refine h.bind fun r asked => ?_
  cases r with
  | ok a => exact hf a asked
  | error e => trivial

theorem asks_sure_bind {m : Act α} {f : α → Attempt ε β} (h : m.Asks asked)
    (hf : ∀ a asked, (f a).run.Asks asked) : (sure m >>= f).run.Asks asked :=
  asks_bind (h.bind fun _ _ => trivial) hf

theorem asks_mapError {m : Attempt ε α} (h : m.run.Asks asked) (f : ε → δ) : (m.mapError f).run.Asks asked :=
  h.bind fun _ _ => trivial

end Attempt

/-! ### Calls of the bank -/

namespace Bank

open Attempt

variable {u k : Int} {p : Point}

theorem locking_store {f : Store → α × Store} (hf : ∀ s : Store, s.LocksOnly [] (f s).2) :
    (Act.store f).Locking asked :=
  fun b => ⟨(hf b.store).locks, trivial⟩

theorem locking_look {ε : Type} (f : Store → Except ε α) : (Attempt.look f).run.Locking asked :=
  locking_store (f := fun s => (f s, s)) fun s => .refl s

theorem locking_note (e : Event) : (Act.note e).Locking asked :=
  fun b => ⟨.refl b.store, trivial⟩

theorem locking_sleep (span : Time.Span) : (Timed.sleep span : Act Unit).Locking asked :=
  ⟨fun _ h => (Bool.false_ne_true h).elim, fun _ => trivial⟩

theorem locking_pass (p : Point) : (pass p).run.Locking asked :=
  (only_pass p (fun b => .refl b.store) (fun _ => (Store.LocksOnly.of_drafts rfl).locks) fun b =>
    .refl b.store).mono (fun _ _ h => h) fun _ _ => trivial

theorem locking_receive (request : Request) (row : Option Int) : (receive request row).run.Locking asked :=
  only_receive fun b => .refl b.store

theorem locking_staging {f : Store → Except StoreError α × Store} (hf : ∀ s : Store, s.LocksOnly [] (f s).2)
    (p : Point) : (do pass p; Attempt.store f : Attempt StoreError α).run.Locking asked :=
  locking_bind (locking_pass p) fun _ => locking_store hf

/-- The row whose balance is to be adjusted is the only one that is locked. -/
theorem locking_adjustIn (u k delta : Int) (floor : Bool) :
    (adjustIn u k delta floor).run.Locking fun v j => v = u ∧ j = k := by
  refine locking_bind (locking_pass .addBalance) fun _ => locking_bind (m := lockRow u k) ?_ fun _ => ?_
  · exact only_onceFree (fun b => .refl b.store) fun b => b.store.locks_lock u k
  · exact locking_store fun s => .adjust s u k delta floor

theorem asks_adjustIn (u k delta : Int) (floor : Bool) : (adjustIn u k delta floor).run.Asks asked := by
  refine Timed.Asks.of_asking ((locking_adjustIn u k delta floor).asks.mono ?_)
  rintro v j ⟨rfl, rfl⟩
  exact .inr (.call delta floor)

theorem locking_beginUnit : beginUnit.run.Locking asked :=
  locking_bind (locking_receive _ _) fun _ => locking_bind (locking_pass _) fun _ =>
    Timed.Locking.bind (locking_store Store.LocksOnly.openDraft) fun _ => trivial

theorem locking_commit (u : Int) : (commit u).run.Locking asked := by
  unfold commit
  refine locking_sure_bind (locking_pass _) fun r => ?_
  cases r with
  | ok => exact locking_store fun s => .publish s u
  | error e => exact locking_sure_bind (locking_store fun s => .discard s u) fun _ => trivial

theorem locking_rollback (u : Int) : (rollback u).run.Locking asked := by
  unfold rollback
  refine locking_sure_bind (locking_pass _) fun r => locking_sure_bind (locking_store fun s => .discard s u) fun _ => ?_
  cases r <;> trivial

theorem locking_account (id : Int) : (account id).run.Locking asked :=
  locking_bind (locking_receive _ _) fun _ => locking_look _

theorem locking_createAccount (owner : String) (balance : Int) (currency : Currency) :
    (createAccount owner balance currency).run.Locking asked := by
  unfold createAccount
  refine locking_bind locking_beginUnit fun u => ?_
  refine locking_sure_bind (locking_staging (fun s => .stageAccount s u _ _ _) _) fun r => ?_
  cases r with
  | ok a => exact locking_bind (locking_commit u) fun _ => trivial
  | error e =>
    refine locking_sure_bind (locking_rollback u) fun r => ?_
    cases r with
    | ok => trivial
    | error f => exact locking_sure_bind (locking_note _) fun _ => trivial

theorem locking_deleteAccount (id : Int) : (deleteAccount id).run.Locking asked :=
  locking_bind (locking_receive _ _) fun _ =>
    only_onceFree (fun b => .refl b.store) fun b => (Store.LocksOnly.remove b.store id).locks

end Bank

/-- A primitive locks no row but the one of the account whose balance it adjusts. -/
theorem Primitive.locking_act (p : Primitive) :
    p.act.Locking fun u k => ∃ delta floor, p = .adjust u k delta floor := by
  cases p with
  | beginUnit => exact Bank.locking_beginUnit.bind fun _ => trivial
  | readAccount u id => exact (Bank.locking_look _).bind fun _ => trivial
  | openAccount u owner balance currency =>
    exact (Bank.locking_staging (fun s => .stageAccount s u _ _ _) _).bind fun _ => trivial
  | writeTransfer u source target amount =>
    exact (Bank.locking_staging (fun s => .stageTransfer s u _ _ _) _).bind fun _ => trivial
  | writeEntry u account amount =>
    exact (Bank.locking_staging (fun s => .stageEntry s u _ _) _).bind fun _ => trivial
  | adjust u k delta floor =>
    refine ((Bank.locking_adjustIn u k delta floor).mono ?_).bind fun _ => trivial
    rintro v j ⟨rfl, rfl⟩
    exact ⟨delta, floor, rfl⟩
  | commit u => exact (Bank.locking_commit u).bind fun _ => trivial
  | rollback u => exact (Bank.locking_rollback u).bind fun _ => trivial
  | deleteAccount id => exact (Bank.locking_deleteAccount id).bind fun _ => trivial

/-! ### Work -/

namespace Work

open Attempt Bank

theorem asks_run (work : Work α) (u : Int) : (work.run u).run.Asks asked := by
  induction work generalizing asked with
  | done r => trivial
  | rest span next ih => exact asks_sure_bind (locking_sleep span).asks fun _ _ => ih
  | readAccount id next ih => exact asks_sure_bind (locking_look _).asks fun r _ => ih r
  | openAccount owner balance currency next ih =>
    exact asks_sure_bind (locking_staging (fun s => .stageAccount s u _ _ _) _).asks fun r _ => ih r
  | writeTransfer source target amount next ih =>
    exact asks_sure_bind (locking_staging (fun s => .stageTransfer s u _ _ _) _).asks fun r _ => ih r
  | writeEntry account amount next ih =>
    exact asks_sure_bind (locking_staging (fun s => .stageEntry s u _ _) _).asks fun r _ => ih r
  | adjust id delta floor next ih => exact asks_sure_bind (asks_adjustIn u id delta floor) fun r _ => ih r

theorem asks_execute (work : Work α) (deadline : Option Time.Span) : (work.execute deadline).run.Asks asked := by
  have houtcome : ∀ u asked, (work.outcome deadline u).Asks asked := by
    intro u asked
    unfold outcome
    cases deadline with
    | none => exact (asks_run work u).bind fun _ _ => trivial
    | some limit =>
      refine ((asks_run work u).within limit).bind fun r asked => ?_
      cases r <;> trivial
  unfold execute
  refine asks_bind (asks_mapError locking_beginUnit.asks _) fun u asked => ?_
  refine asks_sure_bind (houtcome u asked) fun r asked => ?_
  cases r with
  | ok a => exact asks_bind (asks_mapError (locking_commit u).asks _) fun _ _ => trivial
  | error cause =>
    refine asks_sure_bind (locking_note _).asks fun _ asked => ?_
    refine asks_sure_bind (locking_rollback u).asks fun r asked => ?_
    cases r with
    | ok => trivial
    | error e => exact asks_sure_bind (locking_note _).asks fun _ _ => trivial

end Work

end Teller

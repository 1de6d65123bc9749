import Teller.Proofs.Bank.Inside
import Teller.Proofs.Bank.Twice
import Teller.Proofs.Work.Course

/-!
# How long it takes to open and to end a unit

Banks whose delays differ only where units of work are opened and ended (`Bank.Paced`). The work in a unit goes on
in lockstep, and an execution comes to the same.
-/

namespace Teller

/-- The faults differ at most in how long it takes to open a unit of work and to end it. -/
structure Faults.Paced (f g : Faults) : Prop where
  rules : g.rules = f.rules
  delays : ∀ p, p ≠ .opening → ¬ p.Ends → g.delay? p = f.delay? p

/-- A call of a point fails in both or in neither. -/
theorem Faults.Paced.trip {f g : Faults} (h : f.Paced g) (p : Point) :
    (f.trip p).1 = (g.trip p).1 ∧ (f.trip p).2.Paced (g.trip p).2 := by
  have hrule : g.rule? p = f.rule? p := by rw [rule?, rule?, h.rules]
  unfold Faults.trip
  rw [hrule]
  cases f.rule? p with
  | none => exact ⟨rfl, h⟩
  | some r =>
    refine ⟨rfl, ?_, h.delays⟩
    show (p, _) :: g.rules.filter _ = (p, _) :: f.rules.filter _
    rw [h.rules]

def Bank.withFaults (b : Bank) (f : Faults) : Bank :=
  { b with store := { b.store with faults := f } }

def Bank.Paced (b c : Bank) : Prop :=
  ∃ f, b.store.faults.Paced f ∧ c = b.withFaults f

/-- A step of the store that has nothing to do with faults. -/
def Store.Faultless {α : Type} (f : Store → α × Store) : Prop :=
  ∀ s g, f { s with faults := g } = ((f s).1, { (f s).2 with faults := g })

namespace Store.Faultless

variable {α : Type} {f : Store → α × Store}

theorem faults (h : Faultless f) (s : Store) : (f s).2.faults = s.faults :=
  congrArg (·.2.faults) (h s s.faults)

theorem lock (u k : Int) : Faultless fun s => ((.ok () : Except StoreError Unit), s.lock u k) := by
  intro s g
  by_cases hk : k ∈ ((s.drafts.get? u).getD .empty).locks <;> simp [Store.lock, draft, setDraft, hk]

theorem stageAccount (u : Int) (owner : String) (balance : Int) (currency : Currency) :
    Faultless (·.stageAccount u owner balance currency) := by
  intro s g
  by_cases h : ((s.drafts.get? u).getD .empty).Stages owner currency ∨ s.book.Taken owner currency <;>
    simp [Store.stageAccount, draft, setDraft, h]

theorem stageTransfer (u source target amount : Int) : Faultless (·.stageTransfer u source target amount) := by
  intro s g
  have hseen : ∀ k, Store.seen? { s with faults := g } u k = s.seen? u k := fun _ => rfl
  by_cases hamount : amount ≤ 0
  · simp [Store.stageTransfer, hamount]
  by_cases hsource : s.seen? u source = none
  · simp [Store.stageTransfer, hseen, hamount, hsource]
  by_cases htarget : s.seen? u target = none <;>
    simp [Store.stageTransfer, hseen, draft, setDraft, hamount, hsource, htarget]

theorem stageEntry (u account amount : Int) : Faultless (·.stageEntry u account amount) := by
  intro s g
  have hseen : ∀ k, Store.seen? { s with faults := g } u k = s.seen? u k := fun _ => rfl
  by_cases h : s.seen? u account = none <;> simp [Store.stageEntry, hseen, draft, setDraft, h]

theorem adjust (u k delta : Int) (floor : Bool) : Faultless (·.adjust u k delta floor) := by
  intro s g
  have hseen : Store.seen { s with faults := g } u k = s.seen u k := rfl
  simp only [Store.adjust, hseen]
  cases s.seen u k with
  | error e => rfl
  | ok a =>
    cases ha : a.add delta floor with
    | error e => simp only [ha]
    | ok a' =>
      simp only [ha]
      rfl

theorem publish (u : Int) : Faultless (·.publish u) := by
  intro s g
  have hrival : (Store.draft { s with faults := g } u).rival? s.book = (s.draft u).rival? s.book := rfl
  simp only [Store.publish, hrival]
  cases (s.draft u).rival? s.book <;> rfl

end Store.Faultless

namespace Bank

open Attempt

variable {α : Type}

theorem lockstep_store {f : Store → α × Store} (hf : Store.Faultless f) : (Act.store f).Lockstep Paced := by
  rintro b c ⟨g, hg, rfl⟩
  have hstep := hf b.store g
  refine ⟨.nil, congrArg (·.1) hstep.symm, g, ?_, ?_⟩
  · show ((f b.store).2.faults).Paced g
    rw [hf.faults]
    exact hg
  · show Bank.mk (f { b.store with faults := g }).2 _ _ = _
    rw [hstep]
    rfl

/-- To count a call has nothing to do with delays. -/
theorem lockstep_strike (p : Point) : (strike p).run.Lockstep Paced := by
  have htrip : (Act.store (·.trip p)).Lockstep Paced := by
    rintro b c ⟨g, hg, rfl⟩
    obtain ⟨hfails, hfaults⟩ := hg.trip p
    refine ⟨.nil, ?_, _, hfaults, rfl⟩
    show (if (b.store.faults.trip p).1 = true then Except.error (StoreError.injectedAt p) else .ok ()) =
      if (g.trip p).1 = true then Except.error (StoreError.injectedAt p) else .ok ()
    rw [hfails]
  have hnote : (Act.note (.injectedFailure p)).Lockstep Paced := by
    rintro b c ⟨g, hg, rfl⟩
    exact ⟨.nil, rfl, g, hg, rfl⟩
  refine lockstep_sure_bind htrip fun r => ?_
  cases r with
  | ok => exact .done _
  | error e => exact lockstep_sure_bind hnote fun _ => .done _

theorem lockstep_pass {p : Point} (hopening : p ≠ .opening) (hends : ¬ p.Ends) : (pass p).run.Lockstep Paced := by
  have hdelay : (Act.look (·.faults.delay? p)).Lockstep Paced := by
    rintro b c ⟨g, hg, rfl⟩
    exact ⟨.nil, (hg.delays p hopening hends).symm, g, hg, rfl⟩
  refine lockstep_sure_bind hdelay fun d => ?_
  cases d with
  | none => exact lockstep_strike p
  | some d => exact lockstep_sure_bind (.sleep d) fun _ => lockstep_strike p

/-- How long a call is delayed at a point makes no difference to what it comes to. -/
theorem blind_pass (p : Point) : (pass p).run.Blind Paced fun _ => Paced := by
  have hpass : ∀ b, ((pass p).run.run b).value = ((strike p).run.run b).value ∧
      ((pass p).run.run b).state = ((strike p).run.run b).state := by
    intro b
    rw [pass, value_sure_bind, state_sure_bind]
    cases ((Act.look (·.faults.delay? p)).run b).value with
    | none => exact ⟨rfl, rfl⟩
    | some d =>
      dsimp only
      rw [value_sure_bind, state_sure_bind]
      exact ⟨rfl, rfl⟩
  intro b c hbc
  have hstrike := lockstep_strike p b c hbc
  rw [(hpass b).1, (hpass b).2, (hpass c).1, (hpass c).2]
  exact ⟨hstrike.value, hstrike.state⟩

theorem lockstep_onceFree (w : Option Int) (k : Int) {f : Store → Except StoreError α × Store}
    (hf : Store.Faultless f) : (onceFree w k f).run.Lockstep Paced := by
  intro b c hbc
  obtain ⟨hpauses, hvalue, hstate⟩ := lockstep_store hf b c hbc
  obtain ⟨g, hg, rfl⟩ := hbc
  rw [onceFree_alone, onceFree_alone]
  by_cases hfree : b.store.Free w k
  · rw [if_pos hfree, if_pos (show (b.withFaults g).store.Free w k from hfree)]
    exact ⟨hpauses, hvalue, hstate⟩
  · rw [if_neg hfree, if_neg (show ¬ (b.withFaults g).store.Free w k from hfree)]
    exact ⟨.cons ⟨rfl, g, hg, rfl⟩ .nil, rfl, g, hg, rfl⟩

theorem lockstep_staging {p : Point} (hopening : p ≠ .opening) (hends : ¬ p.Ends)
    {f : Store → Except StoreError α × Store} (hf : Store.Faultless f) :
    (do pass p; Attempt.store f : Attempt StoreError α).run.Lockstep Paced :=
  lockstep_bind (lockstep_pass hopening hends) fun _ => lockstep_store hf

theorem lockstep_adjustIn (u k delta : Int) (floor : Bool) : (adjustIn u k delta floor).run.Lockstep Paced := by
  refine lockstep_bind (lockstep_pass (by decide) (by decide)) fun _ => ?_
  refine lockstep_bind (lockstep_onceFree _ _ (.lock u k)) fun _ => ?_
  exact lockstep_store (.adjust u k delta floor)

theorem blind_beginUnit : beginUnit.run.Blind Paced fun _ => Paced := by
  have hreceive : (receive .opening none).run.Lockstep Paced := by
    rintro b c ⟨g, hg, rfl⟩
    rw [receive_alone, receive_alone]
    exact ⟨.nil, rfl, g, hg, rfl⟩
  refine blind_bind hreceive.blind (fun _ => ?_) fun _ _ _ h => h
  refine blind_bind (blind_pass .opening) (fun _ => ?_) fun _ _ _ h => h
  exact (lockstep_sure_bind (lockstep_store fun _ _ => rfl) fun _ => .done _).blind

theorem lockstep_abandon (u : Int) : (abandon u).Lockstep Paced :=
  lockstep_store fun _ _ => rfl

theorem blind_commit (u : Int) : (commit u).run.Blind Paced fun _ => Paced := by
  refine blind_sure_bind (blind_pass .commit) fun r => ?_
  cases r with
  | ok => exact (lockstep_store (.publish u)).blind
  | error e => exact (lockstep_sure_bind (lockstep_abandon u) fun _ => .done _).blind

theorem blind_rollback (u : Int) : (rollback u).run.Blind Paced fun _ => Paced := by
  refine blind_sure_bind (blind_pass .rollback) fun r => ?_
  refine (lockstep_sure_bind (lockstep_abandon u) fun _ => ?_).blind
  cases r <;> exact .done _

end Bank

namespace Work

open Bank Attempt

variable {α : Type}

theorem lockstep_run (u : Int) (work : Work α) : (work.run u).run.Lockstep Paced := by
  induction work with
  | done r => exact .done r
  | rest span next ih => exact lockstep_sure_bind (.sleep span) fun _ => ih
  | readAccount id next ih =>
    exact lockstep_sure_bind (lockstep_store (f := fun s => (s.seen u id, s)) fun _ _ => rfl) ih
  | openAccount owner balance currency next ih =>
    exact lockstep_sure_bind (lockstep_staging (by decide) (by decide) (.stageAccount u owner balance currency)) ih
  | writeTransfer source target amount next ih =>
    exact lockstep_sure_bind (lockstep_staging (by decide) (by decide) (.stageTransfer u source target amount)) ih
  | writeEntry account amount next ih =>
    exact lockstep_sure_bind (lockstep_staging (by decide) (by decide) (.stageEntry u account amount)) ih
  | adjust id delta floor next ih => exact lockstep_sure_bind (lockstep_adjustIn u id delta floor) ih

theorem lockstep_outcome (deadline : Option Time.Span) (work : Work α) (u : Int) :
    (work.outcome deadline u).Lockstep Paced := by
  cases deadline with
  | none => exact (lockstep_run u work).bind fun _ => .done _
  | some limit =>
    refine ((lockstep_run u work).within limit).bind fun r => ?_
    cases r <;> exact .done _

theorem blind_conclude (u : Int) (r : Except WorkError α) : (conclude u r).run.Blind Paced fun _ => Paced := by
  have hnote : ∀ e, (Act.note e).Blind Paced fun _ => Paced := by
    rintro e b c ⟨g, hg, rfl⟩
    exact ⟨rfl, g, hg, rfl⟩
  cases r with
  | ok a =>
    refine blind_bind (Q := fun _ => Paced) (blind_mapError (blind_commit u)) (fun _ => ?_) fun _ _ _ h => h
    exact .done fun _ _ h => h
  | error cause =>
    refine blind_sure_bind (hnote _) fun _ => blind_sure_bind (blind_rollback u) fun r => ?_
    cases r with
    | ok => exact .done fun _ _ h => h
    | error e => exact blind_sure_bind (hnote _) fun _ => .done fun _ _ h => h

/-- What an execution comes to does not depend on how long it takes to open and to end its unit. -/
theorem blind_execute (deadline : Option Time.Span) (work : Work α) :
    (work.execute deadline).run.Blind Paced fun _ => Paced := by
  rw [execute_eq]
  refine blind_bind (Q := fun _ => Paced) (blind_mapError blind_beginUnit) (fun u => ?_) fun _ _ _ h => h
  exact blind_sure_bind (lockstep_outcome deadline work u).blind fun r => blind_conclude u r

end Work

end Teller

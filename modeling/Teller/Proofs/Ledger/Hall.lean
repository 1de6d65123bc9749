import Teller.Proofs.Bank.Floor
import Teller.Proofs.Ledger.Call

/-!
# The hall

Clients with units of work in their hands and calls that have units of their own, all at one bank at the same
time. Neither side has access to the units of the other, so a step on one side happens around the other: the
floor stays orderly, and so does the traffic (`Hall.Orderly.step`).
-/

namespace Teller

/-- The calls of the clients on the floor, and those that have units of work of their own. -/
structure Hall where
  floor : Floor
  flights : Table (Flight Call Reply)
  /-- The number of the next call that comes in. -/
  next : Int

namespace Hall

def quiet (b : Bank) : Hall :=
  ⟨.quiet b, .empty, 0⟩

def traffic (w : Hall) : Traffic Call Reply :=
  ⟨w.floor.bank, w.flights, w.next⟩

def store (w : Hall) : Store :=
  w.floor.bank.store

/-- The unit of work is one of a call's own. -/
def Owned (w : Hall) (u : Int) : Prop :=
  ∃ n f, w.flights.get? n = some f ∧ u ∈ f.units

/-- The unit of work is in a client's hands, and no call in it is under way. -/
def Ready (w : Hall) (u : Int) : Prop :=
  w.floor.Ready u ∧ ¬ w.Owned u

inductive Event where
  | called (p : Primitive)
  | moved (p : Primitive)
  | answered (p : Primitive) (x : Answer)
  /-- A client's call is dropped while it waits. -/
  | cancelled (p : Primitive)
  /-- A client's unit of work is dropped. -/
  | dropped (u : Int)
  | flight (e : Happening Call)

inductive Step : Hall → Event → Hall → Prop
  | call {w : Hall} (p : Primitive) (hp : ∀ u, p.unit? = some u → w.Ready u) :
    Step w (.called p)
      { w with
        floor :=
          { w.floor with calls := w.floor.calls.put w.floor.next (p, p.act), next := w.floor.next + 1 } }
  | move {w : Hall} {n : Int} {p : Primitive} {m m' : Act Answer} {b : Bank}
    (hc : w.floor.calls.get? n = some (p, m)) (hm : Timed.Step m w.floor.bank m' b) (hx : ∀ x, m' ≠ .done x) :
    Step w (.moved p) { w with floor := { w.floor with bank := b, calls := w.floor.calls.put n (p, m') } }
  | answer {w : Hall} {n : Int} {p : Primitive} {m : Act Answer} {x : Answer} {b : Bank}
    (hc : w.floor.calls.get? n = some (p, m)) (hm : Timed.Step m w.floor.bank (.done x) b) :
    Step w (.answered p x) { w with floor := { w.floor with bank := b, calls := w.floor.calls.erase n } }
  | cancel {w : Hall} {n : Int} {p : Primitive} {m : Act Answer} (hc : w.floor.calls.get? n = some (p, m))
    (hw : m.Waits) :
    Step w (.cancelled p)
      { w with
        floor :=
          { w.floor with
            bank := { w.floor.bank with store := p.taken?.elim w.store w.store.discard }
            calls := w.floor.calls.erase n } }
  | drop {w : Hall} {u : Int} (hu : w.Ready u) :
    Step w (.dropped u)
      { w with floor := { w.floor with bank := { w.floor.bank with store := w.store.discard u } } }
  | flight {w : Hall} {e : Happening Call} {t : Traffic Call Reply} (hs : Traffic.Step Call.act w.traffic e t) :
    Step w (.flight e) ⟨{ w.floor with bank := t.bank }, t.flights, t.next⟩

/-- Any number of steps from a bank without calls, with what happened, latest first. -/
inductive Run (b : Bank) : List Event → Hall → Prop
  | start : Run b [] (quiet b)
  | step {h : List Event} {e : Event} {w w' : Hall} (hr : Run b h w) (hs : Step w e w') : Run b (e :: h) w'

/-- Both sides are orderly, and no client makes calls in a unit of work that is a call's own. -/
structure Orderly (stage : Int → Stage Verdict) (w : Hall) : Prop where
  floor : w.floor.Orderly
  traffic : Call.protocol.Orderly stage w.traffic
  apart : ∀ {n p m u}, w.floor.calls.get? n = some (p, m) → p.unit? = some u → ¬ w.Owned u

end Hall

/-! ### One side around the other -/

theorem Floor.Orderly.around {w : Floor} (h : w.Orderly) {b : Bank} (hs : b.store.Sound)
    (hn : w.bank.store.nextDraft ≤ b.store.nextDraft)
    (hu : ∀ {n p m u}, w.calls.get? n = some (p, m) → p.unit? = some u → w.bank.store.Untouched u b.store) :
    Floor.Orderly { w with bank := b } where
  sound := hs
  follows hc := by
    refine (h.follows hc).others (fun _ _ _ _ => Primitive.others_trans) (fun _ _ _ _ hx _ => hx) ?_
    exact ⟨hs, fun u => hu hc⟩
  apart := h.apart
  number hc hpu := Int.lt_of_lt_of_le (h.number hc hpu) hn
  next := h.next

theorem Protocol.Orderly.around {κ α ν : Type} {P : Protocol κ α ν} {stage : Int → Stage ν} {w : Traffic κ α}
    (hP : P.Kept) (h : P.Orderly stage w) {b : Bank} {v : Option Int} (hinv : P.inv b.store)
    (hm : Store.Move v w.bank.store b.store)
    (hv : ∀ {n f u}, w.flights.get? n = some f → u ∈ f.units → v ≠ some u) :
    P.Orderly stage { w with bank := b } where
  inv := hinv
  follows hf := by
    have hsound := hP.invariant.sound h.inv
    refine (h.follows hf).others (fun _ _ _ _ => Conduct.others_trans) (fun _ _ _ _ hq _ => hq) ?_
    refine ⟨hinv, fun u hu => ?_, hm.precedes hsound⟩
    exact hm.untouched hsound (hv hf (h.unit hf hu)) (h.number hf (h.unit hf hu))
  unit := h.unit
  closed hf hu hne := by
    by_contra hopen
    rcases hm.opened hopen with hold | ⟨rfl, -⟩
    · exact hold (h.closed hf hu hne)
    · exact Int.lt_irrefl _ (h.number hf hu)
  number hf hu := Int.lt_of_lt_of_le (h.number hf hu) hm.nextDraft_le
  apart := h.apart
  next := h.next

namespace Hall

variable {stage stage' : Int → Stage Verdict} {w w' : Hall} {b : Bank} {h : List Event} {e : Event}
  {n u : Int} {v : Option Int}

namespace Orderly

theorem quiet (hb : b.store.Sound) (stage : Int → Stage Verdict) : Orderly stage (quiet b) where
  floor := .quiet hb
  traffic := .quiet Call.protocol stage hb
  apart hc := by cases hc

/-- A client's step in a unit of work that is no call's own. -/
theorem client (h : Orderly stage w) {v : Floor} (hfloor : v.Orderly) {u : Option Int}
    (hm : Store.Move u w.store v.bank.store) (hu : ∀ k, u = some k → ¬ w.Owned k)
    (hcalls : ∀ {n p m k}, v.calls.get? n = some (p, m) → p.unit? = some k → ¬ w.Owned k) :
    Orderly stage { w with floor := v } where
  floor := hfloor
  traffic := h.traffic.around Call.kept (hm.sound h.floor.sound) hm fun hf hk hku => hu _ hku ⟨_, _, hf, hk⟩
  apart := hcalls

/-- A call with units of its own goes ahead, and the clients do not notice. -/
theorem flight (h : Orderly stage w) {e : Happening Call} {t : Traffic Call Reply}
    (hs : Traffic.Step Call.act w.traffic e t) :
    ∃ stage', Orderly stage' ⟨{ w.floor with bank := t.bank }, t.flights, t.next⟩ ∧
      Call.protocol.Advance stage e stage' ∧
      ((∃ v, Store.Move v w.store t.bank.store) ∨ ∃ units, t.bank.store = w.store.discardAll units) := by
  obtain ⟨stage', ht, hadv⟩ := h.traffic.step Call.kept hs
  suffices hsides : (∀ {u}, ¬ w.Owned u → u < w.store.nextDraft →
      w.store.Untouched u t.bank.store ∧ ∀ n f, t.flights.get? n = some f → u ∉ f.units) ∧
      w.store.nextDraft ≤ t.bank.store.nextDraft ∧
      ((∃ v, Store.Move v w.store t.bank.store) ∨ ∃ units, t.bank.store = w.store.discardAll units) by
    obtain ⟨hother, hle, hmove⟩ := hsides
    refine ⟨stage', ⟨h.floor.around ht.inv hle fun hc hu => ?_, ht, fun hc hu ⟨n, f, hf, hmem⟩ => ?_⟩, hadv, hmove⟩
    · exact (hother (h.apart hc hu) (h.floor.number hc hu)).1
    · exact (hother (h.apart hc hu) (h.floor.number hc hu)).2 n f hf hmem
  have hold : ∀ {u}, ¬ w.Owned u → ∀ n f, w.flights.get? n = some f → u ∉ f.units :=
    fun hu n f hf hmem => hu ⟨n, f, hf, hmem⟩
  cases hs with
  | arrival c =>
    refine ⟨fun hu _ => ⟨.refl _ _, fun n f hf => ?_⟩, Int.le_refl _, .inl ⟨none, .setting w.store.faults w.store.now⟩⟩
    rcases Table.get?_put_eq_some_iff.1 hf with ⟨rfl, rfl⟩ | ⟨-, hf⟩
    · exact List.not_mem_nil
    · exact hold hu n f hf
  | @move k g m b hg hm =>
    have hmove : Store.Move (stage k).unit w.store b.store := hadv.2.move
    refine ⟨fun {u} hu hlt => ⟨?_, fun n f hf => ?_⟩, hmove.nextDraft_le, .inl ⟨_, hmove⟩⟩
    · exact hmove.untouched h.floor.sound (fun hku => hu ⟨k, g, hg, h.traffic.unit hg hku⟩) hlt
    · rcases Table.get?_put_eq_some_iff.1 hf with ⟨rfl, rfl⟩ | ⟨-, hf⟩
      · intro hmem
        rcases List.mem_append.1 hmem with hmem | hmem
        · exact hold hu _ g hg hmem
        · exact Int.not_lt.2 (Store.mem_opened.1 hmem).1 hlt
      · exact hold hu n f hf
  | @departure k g hg hw =>
    have hn : (w.store.discardAll g.units).nextDraft = w.store.nextDraft :=
      Store.discardAll_induct (J := fun s => s.nextDraft = w.store.nextDraft) (fun _ _ hs => hs) rfl g.units
    refine ⟨fun {u} hu hlt => ⟨.of_book (Store.discardAll_book _ _) ?_, fun n f hf => ?_⟩, Int.le_of_eq hn.symm,
      .inr ⟨g.units, rfl⟩⟩
    · show (w.store.discardAll g.units).drafts.get? u = _
      rw [Store.discardAll_get?, if_neg (hold hu k g hg)]
    · exact hold hu n f (Table.get?_erase_eq_some_iff.1 hf).2
  | change faults now refusals =>
    exact ⟨fun hu _ => ⟨.of_book rfl rfl, hold hu⟩, Int.le_refl _, .inl ⟨none, .setting faults now⟩⟩

/-- What a step does to the store, and how the hall stands then. -/
theorem step (h : Orderly stage w) (hs : Step w e w') :
    (∃ stage', Orderly stage' w') ∧
      ((∃ v, Store.Move v w.store w'.store) ∨ ∃ units, w'.store = w.store.discardAll units) := by
  have hstep : ∀ {v : Floor} {u : Option Int}, v.Orderly → Store.Move u w.store v.bank.store →
      (∀ k, u = some k → ¬ w.Owned k) →
      (∀ {n p m k}, v.calls.get? n = some (p, m) → p.unit? = some k → ¬ w.Owned k) →
      (∃ stage', Orderly stage' { w with floor := v }) ∧
        ((∃ u, Store.Move u w.store v.bank.store) ∨ ∃ units, v.bank.store = w.store.discardAll units) :=
    fun hv hm hu hcalls => ⟨⟨stage, h.client hv hm hu hcalls⟩, .inl ⟨_, hm⟩⟩
  have herase : ∀ {n m k l} {p : Primitive}, (w.floor.calls.erase n).get? m = some (p, l) → p.unit? = some k →
      ¬ w.Owned k := fun hm => h.apart (Table.get?_erase_eq_some_iff.1 hm).2
  cases hs with
  | call p hp =>
    refine hstep (h.floor.call fun u hu => (hp u hu).1) (u := none) (.setting w.store.faults w.store.now)
      (by rintro k ⟨⟩) fun hc hk => ?_
    rcases Table.get?_put_eq_some_iff.1 hc with ⟨rfl, heq⟩ | ⟨-, hc⟩
    · cases heq
      exact (hp _ hk).2
    · exact h.apart hc hk
  | move hc hm hx =>
    rcases h.floor.turn hc hm with ⟨-, hsilent, hm'⟩ | ⟨x, heq, -⟩
    · refine hstep (h.floor.put hc hsilent.move hm') hsilent.move (fun k => h.apart hc) fun hc' hk => ?_
      rcases Table.get?_put_eq_some_iff.1 hc' with ⟨rfl, heq⟩ | ⟨-, hc'⟩
      · cases heq
        exact h.apart hc hk
      · exact h.apart hc' hk
    · exact absurd heq (hx x)
  | answer hc hm =>
    rcases h.floor.turn hc hm with ⟨hx, -⟩ | ⟨y, heq, hdeed⟩
    · exact absurd rfl (hx _)
    · exact hstep (h.floor.erase hc hdeed.move) hdeed.move (fun k => h.apart hc) herase
  | @cancel n p m hc hw =>
    have hsilent := p.silent_taken w.store
    exact hstep (h.floor.erase hc hsilent.move) hsilent.move (fun k => h.apart hc) herase
  | drop hu =>
    refine hstep (h.floor.discard hu.1) (.discard _) (fun k hk => ?_) h.apart
    obtain rfl := Option.some.inj hk
    exact hu.2
  | flight hs =>
    obtain ⟨stage', ht, -, hm⟩ := h.flight hs
    exact ⟨⟨stage', ht⟩, hm⟩

end Orderly

/-- What goes on among clients alone goes on in a hall without other calls. -/
theorem Run.of_floor {l : List Answered} {v : Floor} (hr : Floor.Run b l v) :
    ∃ h w, Run b h w ∧ w.floor = v ∧ w.flights = .empty := by
  induction hr with
  | start => exact ⟨[], _, .start, rfl, rfl⟩
  | @step l l' v v' hr hs ih =>
    obtain ⟨h, w, hrun, rfl, hflights⟩ := ih
    have hready : ∀ {u}, w.floor.Ready u → w.Ready u := fun hu => ⟨hu, fun ⟨n, f, hf, _⟩ => by
      rw [hflights] at hf
      cases hf⟩
    cases hs with
    | call p hp => exact ⟨_, _, hrun.step (.call p fun u hu => hready (hp u hu)), rfl, hflights⟩
    | move hc hm hx => exact ⟨_, _, hrun.step (.move hc hm hx), rfl, hflights⟩
    | answer hc hm => exact ⟨_, _, hrun.step (.answer hc hm), rfl, hflights⟩
    | cancel hc hw => exact ⟨_, _, hrun.step (.cancel hc hw), rfl, hflights⟩
    | drop hu => exact ⟨_, _, hrun.step (.drop (hready hu)), rfl, hflights⟩
    | change faults now refusals => exact ⟨_, _, hrun.step (.flight (.change faults now refusals)), rfl, hflights⟩

theorem Run.orderly (hb : b.store.Sound) (hr : Run b h w) : ∃ stage, Orderly stage w := by
  induction hr with
  | start => exact ⟨fun _ => .start, .quiet hb _⟩
  | step hr hs ih =>
    obtain ⟨stage, hw⟩ := ih
    exact (hw.step hs).1

end Hall

end Teller

import Teller.Proofs.Bank.Asking
import Teller.Proofs.Ledger.Hall
import Teller.Proofs.Transfer.Unhindered

/-!
# Who has rows locked

In the hall a row is locked by a unit of work that is open, and a balance in that row was to be adjusted in it: by
its client, or by the call that it belongs to (`Hall.Run.accounted`). Locks are never handed on, and the end of a unit,
however it comes about, frees its rows in the same step (`Hall.Run.closes`).
-/

namespace Teller

open Timed

/-- On the way from the one computation to the other, the account's balance was to be adjusted in the unit of work. -/
def Act.Asked {α : Type} (m n : Act α) (u k : Int) : Prop :=
  ∃ l n' l', Walk m l n' ∧ Bank.Adjusting u k n' ∧ Walk n' l' n

/-- The call has come to where it stands by its own steps, and its units of work have locked only what it has
asked for on the way. -/
structure Flight.Accounted (f : Flight Call Reply) (s : Store) : Prop where
  walked : ∃ l, Walk f.call.act l f.rest
  rest : f.rest.Asks (f.call.act.Asked f.rest)
  locked : ∀ {u k}, u ∈ f.units → s.Locked u k → f.call.act.Asked f.rest u k

namespace Hall

/-- The unit of work is over with this. -/
def Event.Ends (u : Int) : Event → Prop
  | .answered p _ => p.taken? = some u
  | .cancelled p => p.taken? = some u
  | .dropped v => v = u
  | _ => False

/-- Each row is locked by one unit of work at most, and that is open; a balance in the row was to be adjusted in it, by
its client or by the call under way that it belongs to. -/
structure Held (h : List Event) (w : Hall) : Prop where
  unique : ∀ {u v k}, w.store.Locked u k → w.store.Locked v k → u = v
  found : ∀ {u k}, w.store.holder? k = some u ↔ w.store.Locked u k
  holder : ∀ {u k}, w.store.Locked u k → (∃ delta floor, .called (.adjust u k delta floor) ∈ h) ∨
    ∃ n f, w.flights.get? n = some f ∧ u ∈ f.units ∧ f.call.act.Asked f.rest u k ∧ ∀ x, f.rest ≠ .done x

/-- How a step ends units of work. -/
structure Closes (w : Hall) (e : Event) (w' : Hall) : Prop where
  passes : w.store.Passes w'.store
  client : ∀ u, e.Ends u → w'.store.drafts.get? u = none
  commit : ∀ u x, e = .answered (.commit u) x →
    x = .done (.ok ()) ∧ w'.store.book = (w.store.draft u).publish w.store.book ∨
      (∃ err, x = .done (.error err)) ∧ w'.store.book = w.store.book
  departure : ∀ n c, e = .flight (.departure n c) → w'.store.book = w.store.book ∧
    ∀ f, w.flights.get? n = some f → ∀ u ∈ f.units, w'.store.drafts.get? u = none
  reply : ∀ n f x, w'.flights.get? n = some f → f.rest = .done x → ∀ u ∈ f.units, w'.store.drafts.get? u = none

/-- Every lock goes back to a request for it. -/
structure Accounted (h : List Event) (w : Hall) : Prop where
  call : ∀ {n p m}, w.floor.calls.get? n = some (p, m) → .called p ∈ h ∧ ∃ l, Walk p.act l m
  flight : ∀ {n f}, w.flights.get? n = some f → f.Accounted w.store
  locked : ∀ {u k}, w.store.Locked u k → w.Owned u ∨ ∃ delta floor, .called (.adjust u k delta floor) ∈ h

end Hall

namespace Act.Asked

variable {α : Type} {m n n' : Act α} {l : List (Bank × Bank)} {b b' : Bank} {u k : Int}

theorem step (h : m.Asked n u k) (hs : Step n b n' b') : m.Asked n' u k := by
  obtain ⟨l, j, l', hl, hj, hl'⟩ := h
  exact ⟨l, j, _, hl, hj, hl'.append (.cons hs .nil)⟩

theorem of_asking (hw : Walk m l n) (hs : Step n b n' b') (h : n.asking (m.Asked n) u k) : m.Asked n' u k := by
  rcases h with hold | hnow
  · exact hold.step hs
  · exact ⟨l, n, _, hw, hnow, .cons hs .nil⟩

end Act.Asked

namespace Store

variable {s : Store} {units : List Int} {u k : Int}

theorem locked_discardAll : (s.discardAll units).Locked u k ↔ s.Locked u k ∧ u ∉ units := by
  unfold Locked
  rw [discardAll_get?]
  by_cases hu : u ∈ units <;> simp [hu]

/-- Units of work that end without a trace free their rows. -/
theorem Sound.passes_discardAll (hs : s.Sound) (units : List Int) : s.Passes (s.discardAll units) := by
  have hget := discardAll_get? units s
  refine ⟨fun {u k} hl hu => locked_discardAll.2 ⟨hl, fun hmem => hu ?_⟩,
    fun hl hu => hs.freed hl hu fun {v d} hv => ?_, .inl (discardAll_book units s)⟩
  · rw [hget, if_pos hmem]
  · rw [hget] at hv
    split at hv
    · cases hv
    · exact hv

end Store

/-! ### Calls -/

namespace Call

open Attempt Bank

variable {asked : Int → Int → Prop}

theorem asks_transfer (o : Order) (terms : Terms) : (o.execute terms).run.Asks asked := by
  rcases hproper : o.improper? with _ | e
  · rw [Order.execute_of_proper hproper]
    exact asks_bind (asks_mapError (Work.asks_execute _ _) _) fun _ _ =>
      asks_sure_bind (locking_note _).asks fun _ _ => trivial
  · have hdone := Order.execute_of_improper hproper terms
    unfold Attempt.outcome at hdone
    rw [hdone]
    trivial

theorem locking_check (r : TransferRequest) : r.check.run.Locking asked := by
  have haccount : ∀ {c : Currency} {id : Int}, (TransferRequest.accountIn c id).run.Locking asked := by
    intro c id
    unfold TransferRequest.accountIn
    refine locking_bind (locking_mapError (locking_account id) _) fun a => ?_
    show Timed.Locking (ExceptT.run (if a.currency ≠ c then _ else _)) asked
    split <;> trivial
  unfold TransferRequest.check
  dsimp only
  by_cases ho : r.amount ≤ 0
  · rw [if_pos ho]
    trivial
  rw [if_neg ho]
  cases Currency.ofCode? r.currency with
  | none => trivial
  | some c =>
    show Timed.Locking (ExceptT.run (if r.source = r.target then _ else _)) asked
    split
    · trivial
    refine locking_bind haccount fun a => ?_
    show Timed.Locking (ExceptT.run (if a.owner ≠ r.principal then _ else _)) asked
    split
    · trivial
    exact locking_bind haccount fun _ => trivial

theorem asks_submit (r : TransferRequest) (terms : Terms) : (r.submit terms).run.Asks asked := by
  unfold TransferRequest.submit
  refine asks_bind (locking_check r).asks fun o asked => asks_sure_bind (asks_transfer o terms) fun x asked => ?_
  cases x with
  | ok receipt => trivial
  | error e => exact asks_sure_bind (locking_note _).asks fun _ _ => trivial

theorem locking_openAccount (owner currency : String) : (Holder.openAccount owner currency).run.Locking asked := by
  unfold Holder.openAccount
  dsimp only
  split
  · trivial
  cases Currency.ofCode? currency with
  | none => trivial
  | some c =>
    dsimp only
    rw [pure_bind]
    exact locking_bind (locking_mapError (locking_createAccount _ _ _) _) fun _ =>
      locking_sure_bind (locking_note _) fun _ => trivial

theorem locking_closeAccount (owner : String) (id : Int) : (Holder.deleteAccount owner id).run.Locking asked := by
  unfold Holder.deleteAccount Holder.account
  refine locking_bind (locking_bind (locking_mapError (locking_account id) _) fun a => ?_) fun _ => ?_
  · show Timed.Locking (ExceptT.run (if a.owner ≠ owner then _ else _)) asked
    split <;> trivial
  · refine locking_bind (locking_mapError (locking_deleteAccount id) _) fun _ => ?_
    exact Timed.Locking.bind (locking_note _) fun _ => trivial

section

-- what an account is opened for is not looked at any more
attribute [local irreducible] Holder.openAccount

theorem asks (c : Call) : c.act.Asks asked := by
  have hreply : ∀ {ε α : Type} {m : Attempt ε α} {f : Except ε α → Reply},
      m.run.Asks asked → (m.outcome >>= fun r => pure (f r)).Asks asked := fun h => Timed.Asks.bind h fun _ _ => trivial
  cases c with
  | transfer o terms => exact hreply (asks_transfer o terms)
  | submit r terms => exact hreply (asks_submit r terms)
  | createAccount owner balance currency => exact hreply (Timed.Locking.asks (locking_createAccount _ _ _))
  | openAccount owner currency => exact hreply (Timed.Locking.asks (locking_openAccount owner currency))
  | deleteAccount id => exact hreply (Timed.Locking.asks (locking_deleteAccount id))
  | closeAccount owner id => exact hreply (Timed.Locking.asks (locking_closeAccount owner id))

end

end Call

/-! ### Runs -/

namespace Flight.Accounted

variable {f : Flight Call Reply} {s s' : Store} {b : Bank} {m : Act Reply}

theorem of_locked (h : f.Accounted s) (hs : ∀ {u k}, u ∈ f.units → s'.Locked u k → s.Locked u k) : f.Accounted s' :=
  ⟨h.walked, h.rest, fun hu hk => h.locked hu (hs hu hk)⟩

theorem arrival (c : Call) (s : Store) : Accounted ⟨c, c.act, []⟩ s :=
  ⟨⟨[], .nil⟩, c.asks, fun hu => by cases hu⟩

theorem move {b₀ : Bank} (h : f.Accounted b₀.store) (hs : b₀.store.Sound) (hm : Step f.rest b₀ m b) :
    Accounted ⟨f.call, m, f.units ++ b.store.opened b₀.store.nextDraft⟩ b.store := by
  obtain ⟨l, hwalk⟩ := h.walked
  obtain ⟨hlocks, hrest⟩ := h.rest.step hm
  refine ⟨⟨_, hwalk.append (.cons hm .nil)⟩, hrest.mono fun u k => .of_asking hwalk hm, fun {u k} hu hk => ?_⟩
  refine .of_asking hwalk hm ((hlocks u k hk).elim (fun hold => .inl ?_) id)
  rcases List.mem_append.1 hu with hu | hu
  · exact h.locked hu hold
  · -- a unit that has just been opened was not there before
    obtain ⟨d, hd, -⟩ := hold
    have hlt := hs.number hd
    have hle := (Store.mem_opened.1 hu).1
    omega

end Flight.Accounted

namespace Hall

variable {stage : Int → Stage Verdict} {w w' : Hall} {b : Bank} {h : List Event} {e : Event} {u k : Int}

/-- A call has its units of work until they are over. -/
theorem Orderly.owned (hw : Orderly stage w) {e : Happening Call} {t : Traffic Call Reply}
    (hs : Traffic.Step Call.act w.traffic e t) (hu : w.Owned u) :
    (∃ n f, t.flights.get? n = some f ∧ u ∈ f.units) ∨ t.bank.store.drafts.get? u = none := by
  obtain ⟨n, f, hf, hu⟩ := hu
  cases hs with
  | arrival c =>
    have hn : n ≠ w.next := Int.ne_of_lt (hw.traffic.next hf)
    exact .inl ⟨n, f, (Table.get?_put_of_ne hn _).trans hf, hu⟩
  | @move j g m b hg hm =>
    by_cases hnj : n = j
    · obtain rfl : f = g := Option.some.inj (hf.symm.trans (hnj ▸ hg))
      exact .inl ⟨j, _, Table.get?_put_self _ _ _, List.mem_append_left _ hu⟩
    · exact .inl ⟨n, f, (Table.get?_put_of_ne hnj _).trans hf, hu⟩
  | @departure j g hg hwait =>
    by_cases hnj : n = j
    · obtain rfl : f = g := Option.some.inj (hf.symm.trans (hnj ▸ hg))
      refine .inr ?_
      show (w.store.discardAll f.units).drafts.get? u = none
      rw [Store.discardAll_get?, if_pos hu]
    · exact .inl ⟨n, f, (Table.get?_erase_of_ne hnj).trans hf, hu⟩
  | change faults now refusals => exact .inl ⟨n, f, hf, hu⟩

namespace Accounted

theorem client (ha : Accounted h w) {v : Floor} {P : Int → Int → Prop} (hlocks : w.store.Locks P v.bank.store)
    (hP : ∀ u k, P u k → ¬ w.Owned u ∧ ∃ delta floor, .called (.adjust u k delta floor) ∈ h)
    (hcalls : ∀ {n p m}, v.calls.get? n = some (p, m) → .called p ∈ e :: h ∧ ∃ l, Walk p.act l m) :
    Accounted (e :: h) { w with floor := v } where
  call := hcalls
  flight hf := (ha.flight hf).of_locked fun hu hk =>
    (hlocks _ _ hk).resolve_right fun hp => (hP _ _ hp).1 ⟨_, _, hf, hu⟩
  locked {u k} hk := by
    have hnow : w.Owned u ∨ ∃ delta floor, .called (.adjust u k delta floor) ∈ h := by
      rcases hlocks u k hk with hold | hp
      · exact ha.locked hold
      · exact .inr (hP u k hp).2
    exact hnow.imp_right fun ⟨delta, floor, hmem⟩ => ⟨delta, floor, List.mem_cons_of_mem _ hmem⟩

theorem flight_step (ha : Accounted h w) (hw : Orderly stage w) {e : Happening Call} {t : Traffic Call Reply}
    (hs : Traffic.Step Call.act w.traffic e t) :
    Accounted (.flight e :: h) ⟨{ w.floor with bank := t.bank }, t.flights, t.next⟩ := by
  suffices hsides : (∀ {n f}, t.flights.get? n = some f → f.Accounted t.bank.store) ∧
      ∀ {u k}, t.bank.store.Locked u k → w.store.Locked u k ∨ w.Owned u by
    obtain ⟨hflight, hlocked⟩ := hsides
    refine ⟨fun hc => (ha.call hc).imp_left (List.mem_cons_of_mem _), hflight, fun {u k} hk => ?_⟩
    by_cases hu : w.Owned u
    · obtain ⟨d, hd, -⟩ := hk
      refine .inl ((hw.owned hs hu).resolve_right fun hnone => ?_)
      cases hnone.symm.trans hd
    · obtain ⟨delta, floor, hmem⟩ := (ha.locked ((hlocked hk).resolve_right hu)).resolve_left hu
      exact .inr ⟨delta, floor, List.mem_cons_of_mem _ hmem⟩
  obtain ⟨stage', -, hadv, -⟩ := hw.flight hs
  cases hs with
  | arrival c =>
    refine ⟨fun hf => ?_, .inl⟩
    rcases Table.get?_put_eq_some_iff.1 hf with ⟨rfl, rfl⟩ | ⟨-, hf⟩
    · exact .arrival c _
    · exact ha.flight hf
  | @move n g m b hg hm =>
    have hmove : Store.Move (stage n).unit w.store b.store := hadv.2.move
    have hback := fun {u k} => hmove.locked (u := u) (k := k) hw.floor.sound
    refine ⟨fun {j f} hf => ?_, fun hk => (hback hk).imp_right fun hunit => ⟨n, g, hg, hw.traffic.unit hg hunit⟩⟩
    rcases Table.get?_put_eq_some_iff.1 hf with ⟨rfl, rfl⟩ | ⟨hjn, hf⟩
    · exact (ha.flight hg).move hw.floor.sound hm
    · refine (ha.flight hf).of_locked fun hu hk => (hback hk).resolve_right fun hunit => ?_
      exact hw.traffic.apart hjn hf hg hu (hw.traffic.unit hg hunit)
  | @departure n g hg hwait =>
    have hback : ∀ {u k}, (w.store.discardAll g.units).Locked u k → w.store.Locked u k := fun hk =>
      (Store.locked_discardAll.1 hk).1
    refine ⟨fun hf => ?_, fun hk => .inl (hback hk)⟩
    exact (ha.flight (Table.get?_erase_eq_some_iff.1 hf).2).of_locked fun _ => hback
  | change faults now refusals => exact ⟨fun hf => (ha.flight hf).of_locked fun _ hk => hk, .inl⟩

theorem step (ha : Accounted h w) (hw : Orderly stage w) (hs : Step w e w') : Accounted (e :: h) w' := by
  have hold : ∀ {n p m}, w.floor.calls.get? n = some (p, m) → .called p ∈ e :: h ∧ ∃ l, Walk p.act l m :=
    fun hc => (ha.call hc).imp_left (List.mem_cons_of_mem _)
  -- in a call's own step, no other row is locked than the one that it is about
  have hown : ∀ {n p m} {m' : Act Answer} {b : Bank}, w.floor.calls.get? n = some (p, m) →
      Timed.Step m w.floor.bank m' b → w.store.Locks (fun u k => ∃ delta floor, p = .adjust u k delta floor) b.store ∧
        (∀ u k, (∃ delta floor, p = .adjust u k delta floor) →
          ¬ w.Owned u ∧ ∃ delta floor, .called (.adjust u k delta floor) ∈ h) ∧ ∃ l, Walk p.act l m' := by
    intro n p m m' b hc hm
    obtain ⟨hcalled, l, hwalk⟩ := ha.call hc
    have hrest : m.Locking _ := (Timed.Only.walk p.locking_act (fun b => .refl b.store) hwalk).2
    refine ⟨(hrest.step hm).1, ?_, _, hwalk.append (.cons hm .nil)⟩
    rintro u k ⟨delta, floor, rfl⟩
    exact ⟨hw.apart hc rfl, delta, floor, hcalled⟩
  cases hs with
  | call p hp =>
    refine ha.client (P := fun _ _ => False) (.refl w.store) (fun _ _ => False.elim) fun hc => ?_
    rcases Table.get?_put_eq_some_iff.1 hc with ⟨-, heq⟩ | ⟨-, hc⟩
    · cases heq
      exact ⟨List.mem_cons_self, [], .nil⟩
    · exact hold hc
  | move hc hm hx =>
    obtain ⟨hlocks, hP, hwalk⟩ := hown hc hm
    refine ha.client hlocks hP fun hc' => ?_
    rcases Table.get?_put_eq_some_iff.1 hc' with ⟨-, heq⟩ | ⟨-, hc'⟩
    · cases heq
      exact ⟨(hold hc).1, hwalk⟩
    · exact hold hc'
  | answer hc hm =>
    obtain ⟨hlocks, hP, -⟩ := hown hc hm
    exact ha.client hlocks hP fun hc' => hold (Table.get?_erase_eq_some_iff.1 hc').2
  | @cancel n p m hc hwait =>
    have hlocks : w.store.Locks (fun _ _ => False) (p.taken?.elim w.store w.store.discard) := by
      cases p.taken? with
      | none => exact .refl w.store
      | some u => exact (Store.LocksOnly.discard w.store u).locks
    exact ha.client hlocks (fun _ _ => False.elim) fun hc' => hold (Table.get?_erase_eq_some_iff.1 hc').2
  | @drop u hu =>
    have hlocks : w.store.Locks (fun _ _ => False) (w.store.discard u) := (Store.LocksOnly.discard w.store u).locks
    exact ha.client hlocks (fun _ _ => False.elim) hold
  | flight hs => exact ha.flight_step hw hs

end Accounted

theorem Run.accounted (hb : b.store.Sound) (hopen : b.store.drafts = .empty) (hr : Run b h w) : Accounted h w := by
  induction hr with
  | start =>
    refine ⟨fun hc => (by cases hc), fun hf => (by cases hf), fun {u k} hk => ?_⟩
    obtain ⟨d, hd, -⟩ := hk
    have hnone : b.store.drafts.get? u = none := by
      rw [hopen]
      rfl
    cases hnone.symm.trans hd
  | step hr hs ih =>
    obtain ⟨stage, hw⟩ := hr.orderly hb
    exact ih.step hw hs

/-- A call that is over has no unit of work open. -/
theorem Orderly.closed (hw : Orderly stage w) {n : Int} {f : Flight Call Reply} {x : Reply}
    (hf : w.flights.get? n = some f) (hx : f.rest = .done x) (hu : u ∈ f.units) : w.store.drafts.get? u = none := by
  have hfollows := hw.traffic.follows hf
  rw [hx] at hfollows
  have hends : f.call.Ends (stage n) x := hfollows
  refine hw.traffic.closed hf hu ?_
  rw [Call.unit_of_ends hends]
  rintro ⟨⟩

theorem Run.held (hb : b.store.Sound) (hopen : b.store.drafts = .empty) (hr : Run b h w) : Held h w := by
  have ha := hr.accounted hb hopen
  obtain ⟨stage, hw⟩ := hr.orderly hb
  refine ⟨hw.floor.sound.locked_unique, hw.floor.sound.holder?_eq_some_iff, fun {u k} hk => ?_⟩
  rcases ha.locked hk with ⟨n, f, hf, hu⟩ | hcalled
  · refine .inr ⟨n, f, hf, hu, (ha.flight hf).locked hu hk, fun x hx => ?_⟩
    obtain ⟨d, hd, -⟩ := hk
    cases (hw.closed hf hx hu).symm.trans hd
  · exact .inl hcalled

/-! ### The end of a unit of work -/

theorem Run.ended (hb : b.store.Sound) (hopen : b.store.drafts = .empty) (hr : Run b h w) (hs : Step w e w')
    (he : e.Ends u) : w'.store.drafts.get? u = none := by
  have hgone : ∀ s : Store, (s.discard u).drafts.get? u = none := fun s => Table.get?_erase_self _ _
  cases hs with
  | @answer n p m x b' hc hm =>
    obtain ⟨-, l, hwalk⟩ := (hr.accounted hb hopen).call hc
    have hlast := hwalk.append (.cons hm .nil)
    cases p with
    | commit v =>
      obtain rfl := Option.some.inj he
      show b'.store.drafts.get? v = none
      rcases Primitive.walk_commit hlast with ⟨-, hstore⟩ | ⟨-, hstore⟩ <;> rw [hstore]
      · rcases w.floor.bank.store.publish_outcome v with ⟨err, heq⟩ | ⟨-, heq⟩ <;> rw [heq]
        · exact hgone _
        · exact hgone w.floor.bank.store
      · exact hgone _
    | rollback v =>
      obtain rfl := Option.some.inj he
      show b'.store.drafts.get? v = none
      rw [Primitive.walk_rollback hlast]
      exact hgone _
    | _ => cases he
  | @cancel n p m hc hwait =>
    have htaken : p.taken? = some u := he
    show (p.taken?.elim w.store w.store.discard).drafts.get? u = none
    rw [htaken]
    exact hgone _
  | drop hu =>
    obtain rfl : _ = u := he
    exact hgone _
  | _ => exact he.elim

theorem Run.commit (hb : b.store.Sound) (hopen : b.store.drafts = .empty) (hr : Run b h w) {x : Answer}
    (hs : Step w (.answered (.commit u) x) w') :
    x = .done (.ok ()) ∧ w'.store.book = (w.store.draft u).publish w.store.book ∨
      (∃ err, x = .done (.error err)) ∧ w'.store.book = w.store.book := by
  cases hs with
  | @answer n _ m _ b' hc hm =>
    obtain ⟨-, l, hwalk⟩ := (hr.accounted hb hopen).call hc
    show _ ∧ b'.store.book = _ ∨ _ ∧ b'.store.book = _
    rcases Primitive.walk_commit (hwalk.append (.cons hm .nil)) with ⟨rfl, hstore⟩ | ⟨rfl, hstore⟩ <;> rw [hstore]
    · rcases w.floor.bank.store.publish_outcome u with ⟨err, heq⟩ | ⟨-, heq⟩ <;> rw [heq]
      · exact .inr ⟨⟨err, rfl⟩, rfl⟩
      · exact .inl ⟨rfl, rfl⟩
    · exact .inr ⟨⟨_, rfl⟩, rfl⟩

theorem Run.closes (hb : b.store.Sound) (hopen : b.store.drafts = .empty) (hr : Run b h w) (hs : Step w e w') :
    Closes w e w' := by
  obtain ⟨stage, hw⟩ := hr.orderly hb
  obtain ⟨⟨stage', hw'⟩, hmove⟩ := hw.step hs
  constructor
  case passes =>
    rcases hmove with ⟨v, hm⟩ | ⟨units, heq⟩
    · exact hm.passes hw.floor.sound
    · rw [heq]
      exact hw.floor.sound.passes_discardAll units
  case client => exact fun u => hr.ended hb hopen hs
  case commit =>
    rintro u x rfl
    exact hr.commit hb hopen hs
  case departure =>
    rintro n c rfl
    cases hs with
    | flight hs =>
      cases hs with
      | @departure _ g hg hwait =>
        refine ⟨Store.discardAll_book _ _, fun f hf u hu => ?_⟩
        obtain rfl : f = g := Option.some.inj (hf.symm.trans hg)
        show (w.store.discardAll f.units).drafts.get? u = none
        rw [Store.discardAll_get?, if_pos hu]
  case reply => exact fun n f x hf hx u hu => hw'.closed hf hx hu

end Hall

/-- A row is locked by one open unit of work at most, in which a balance in it was to be adjusted, and by nobody else.
A unit that ends frees its rows in that step, however it ends: its commit succeeds or fails, it is rolled back or
dropped, or the call that it belongs to is over or dropped. Until then it keeps them, and if its rows are
published, then in that very step. So while no unit is open, neither a transfer nor the removal of an account that is
alone at the bank fails for a locked row. -/
theorem row_locks_end_with_their_unit {b : Bank} {h : List Hall.Event} {w : Hall} (hb : b.store.Reachable)
    (hopen : b.store.drafts = .empty) (hr : Hall.Run b h w) :
    w.Held h ∧ (∀ e w', Hall.Step w e w' → w.Closes e w') ∧
      ((∀ u, w.store.drafts.get? u = none) → w.floor.bank.Candid →
        (∀ (o : Order) (terms : Terms) e k, ((o.execute terms).outcome.run w.floor.bank).value = .error e →
          e.storeError? ≠ some (.lockTimeout k)) ∧
        ∀ id k, ((Bank.deleteAccount id).outcome.run w.floor.bank).value ≠ .error (.lockTimeout k)) := by
  refine ⟨hr.held hb.sound hopen, fun e w' => hr.closes hb.sound hopen, fun hnone hcandid => ⟨?_, ?_⟩⟩
  · obtain ⟨stage, hw⟩ := hr.orderly hb.sound
    exact fun o terms e k => o.unhindered hw.floor.sound hcandid hnone terms
  · exact fun id k => Bank.unhindered_deleteAccount hcandid hnone id

/-- A unit of work has locked ann's row, so nobody else can have it. It is dropped, and with that the row is free. -/
theorem row_of_dropped_unit : ∃ h w w', Hall.Run ⟨.pair .none, [], []⟩ h w ∧ w.store.Locked 3 1 ∧
    ¬ w.store.Free none 1 ∧ Hall.Step w (.dropped 3) w' ∧ (∀ v, w'.store.Free v 1) ∧
    w'.store.book = w.store.book := by
  obtain ⟨l, v, hr, hbank, hcalls, -⟩ := Floor.Run.carry (b := ⟨.pair .none, [], []⟩) (Store.reachable_pair _).sound
    [.adjust 3 1 (-30) true, .beginUnit] (by decide)
  obtain ⟨h, w, hrun, rfl, hflights⟩ := Hall.Run.of_floor hr
  have hstore : w.store = (Primitive.carry ⟨.pair .none, [], []⟩ [.adjust 3 1 (-30) true, .beginUnit]).store :=
    congrArg Bank.store hbank
  have hlocked : w.store.Locked 3 1 := by
    rw [hstore]
    exact Store.of_holder?_eq_some (by decide +kernel)
  obtain ⟨d, hd, -⟩ := id hlocked
  have hready : w.Ready 3 := by
    refine ⟨⟨⟨d, hd⟩, fun n p m hc => ?_⟩, fun ⟨n, f, hf, _⟩ => ?_⟩
    · rw [hcalls] at hc
      cases hc
    · rw [hflights] at hf
      cases hf
  have hdrop : Hall.Step w (.dropped 3) _ := .drop hready
  obtain ⟨hheld, hcloses, -⟩ := row_locks_end_with_their_unit (Store.reachable_pair _) rfl hrun
  have hpasses := (hcloses _ _ hdrop).passes
  refine ⟨h, w, _, hrun, hlocked, fun hfree => ?_, hdrop, hpasses.freed hlocked ?_, rfl⟩
  · rcases hfree with hfree | hfree <;>
    · rw [hheld.found.2 hlocked] at hfree
      cases hfree
  · exact (hcloses _ _ hdrop).client 3 rfl

end Teller

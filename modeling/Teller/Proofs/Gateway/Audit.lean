import Teller.Proofs.Bank.Thread
import Teller.Proofs.Gateway.Serve
import Teller.Proofs.Ledger.Replay

/-!
# The journal as an audit trail

Every service announces what it has done to the book (`Errand.announcing`), so in a session, in which calls
take turns, the events of level INFO replay to the accounts and name the transfers (`audit_replays`).
-/

namespace Teller

theorem Progress.Settles.rests {ε α : Type} {verdict : α → Verdict} {p : Progress} {r : Except ε α}
    (h : p.Settles verdict r) : p.stage.Idle ∨ p.told = true := by
  cases h with
  | ok a => exact .inr rfl
  | error hidle hunit => exact .inl hidle

theorem Gateway.Ends.rests {r : Request} {p : Progress} {x : Answer} (h : Ends r p x) :
    p.stage.Idle ∨ p.told = true := by
  cases h with
  | idle hidle hunit hstatus => exact .inl hidle
  | posted receipt hmethod hroute => exact .inr rfl
  | opened a hmethod hroute => exact .inr rfl
  | removed hmethod hroute htext hid => exact .inr rfl

/-- A call of one of the services. -/
inductive Errand where
  | openAccount (owner currency : String)
  | deleteAccount (owner : String) (id : Int)
  | submit (r : TransferRequest) (terms : Terms)
  /-- An order is carried out without the guard. -/
  | transfer (o : Order) (terms : Terms)
  | request (r : Gateway.Request) (terms : Terms)

namespace Errand

def act : Errand → Act Unit
  | .openAccount owner currency => do
    let _ ← (Holder.openAccount owner currency).outcome
  | .deleteAccount owner id => do
    let _ ← (Holder.deleteAccount owner id).outcome
  | .submit r terms => do
    let _ ← (r.submit terms).outcome
  | .transfer o terms => do
    let _ ← (o.execute terms).outcome
  | .request r terms => do
    let _ ← Gateway.respond terms r

/-- The call may pay a balance below zero. -/
def overdraft : Errand → Bool
  | .submit _ terms => terms.overdraft
  | .transfer _ terms => terms.overdraft
  | .request _ terms => terms.overdraft
  | _ => false

def protocol : Protocol Errand Unit Verdict where
  act := act
  inv := Store.Sound
  effect e := (Conduct.dealing (fun _ => True) e.overdraft).effect
  idle := Stage.Idle
  ends _ _ _ := True

variable {b : Bank}

/-- A call whose result does not matter. -/
theorem follows_discard {α : Type} {mine : Account → Prop} {overdraft : Bool} {m : Act α}
    {Q : Progress → α → Bank → Prop}
    (h : m.Follows (Conduct.dealing mine overdraft).telling Q .start b)
    (hQ : ∀ p r t, Q p r t → p.stage.Idle ∨ p.told = true) :
    (do let _ ← m : Act Unit).Follows (Conduct.dealing (fun _ => True) overdraft).telling
      (fun p _ _ => p.stage.Idle ∨ p.told = true) .start b :=
  Timed.follows_bind.2 ((Conduct.dealing_mono (fun _ _ => trivial) h).mono hQ)

theorem follows (e : Errand) (hs : b.store.Sound) :
    e.act.Follows (Conduct.dealing (fun _ => True) e.overdraft).telling
      (fun p _ _ => p.stage.Idle ∨ p.told = true) .start b := by
  cases e with
  | openAccount owner currency =>
    have h := Holder.telling_openAccount owner currency false b
    dsimp only [act, overdraft]
    generalize Holder.openAccount owner currency = m at h ⊢
    exact follows_discard h fun _ _ _ => Progress.Settles.rests
  | deleteAccount owner id =>
    have h := Holder.telling_deleteAccount owner id false b
    dsimp only [act, overdraft]
    exact follows_discard h fun _ _ _ => Progress.Settles.rests
  | submit r terms =>
    have h := r.telling_submit terms b
    dsimp only [act, overdraft]
    exact follows_discard h fun _ _ _ => Progress.Settles.rests
  | transfer o terms =>
    have h := o.telling_dealing terms hs
    dsimp only [act, overdraft]
    exact follows_discard h fun _ _ _ => Progress.Settles.rests
  | request r terms =>
    have h := Gateway.telling_respond terms r b
    dsimp only [act, overdraft]
    exact follows_discard h fun _ _ _ => Gateway.Ends.rests

theorem announcing : protocol.Announcing where
  invariant := Store.Sound.invariant
  idle := rfl
  ends _ _ _ := trivial
  follows e _ hs := e.follows hs

theorem tells : protocol.Tells fun changes k => k.ToldBy changes where
  quiet hx hnone := by
    rename_i c x s s'
    cases x with
    | failed cause => exact hx
    | _ => cases hnone
  differs hx hd := hx.ne hd
  changes hs hx hd h := h.deals (fun ha => (hs.account ha).1) (fun ht => (hs.transfer ht).1) hx hd

end Errand

/-- A session of calls of the services: whatever they do at the same time, each change of the book is announced
before the next one is made. -/
def Session (patience : Time.Span) (now : Time.Instant) : Traffic Errand Unit → Prop :=
  Traffic.InStep Errand.act (Bank.new patience now) false

theorem sound_new (patience : Time.Span) (now : Time.Instant) : (Bank.new patience now).store.Sound :=
  (Store.Reachable.new patience now).sound

/-- What stands in the journal at level INFO, read record by record from the message and the fields, tells the book
of a bank that started without any accounts: the accounts that there are, and the transfers, each of them once. In
a session the records are in the right order, and calls that share a thread make a session. In any traffic at all, the
records are all there but for those that are due from calls that neither wait nor are over, and so they are all there
when every call waits or is over. -/
theorem audit_replays (patience : Time.Span) (now : Time.Instant) :
    (∀ w, Traffic.Shared Errand.act (Bank.new patience now) w → Session patience now w) ∧
    (∀ w, Session patience now w → w.bank.store.book.ToldBy w.bank.told) ∧
    (∀ h w, Traffic.Run Errand.act (Bank.new patience now) h w → ∃ (due : Table Change) (changes : List Change),
      changes.Perm (due.values ++ w.bank.told) ∧ w.bank.store.book.ToldBy changes ∧
        ∀ n d, due.get? n = some d → ∃ f, w.flights.get? n = some f ∧ ¬ f.rest.Rests) ∧
    ∀ h w, Traffic.Run Errand.act (Bank.new patience now) h w →
      (∀ n f, w.flights.get? n = some f → f.rest.Rests) →
      ∃ changes : List Change, changes.Perm w.bank.told ∧ w.bank.store.book.ToldBy changes := by
  have hempty := sound_new patience now
  have haccounted {h w} (hr : Traffic.Run Errand.act (Bank.new patience now) h w) :=
    Errand.announcing.accounted Errand.tells hempty rfl Book.ToldBy.empty hr
  refine ⟨fun w hw => ?_, fun w hw => ?_, fun h w hr => ?_, fun h w hr hrests => ?_⟩
  · exact Errand.announcing.inStep Errand.tells hempty rfl Book.ToldBy.empty hw
  · exact Errand.announcing.tells_of_inStep Errand.tells hempty rfl Book.ToldBy.empty hw
  · obtain ⟨progress, due, changes, hall⟩ := haccounted hr
    exact ⟨due, changes, hall.made, hall.tells, fun n d hd => hall.owes Errand.announcing hd⟩
  · obtain ⟨progress, due, changes, hall⟩ := haccounted hr
    exact ⟨changes, hall.told_of_rests Errand.announcing hrests, hall.tells⟩

/-- Ann opens an account and deletes it before its opening has been announced: all calls are over, and the journal
tells of the two changes the other way round. -/
theorem exists_crossing : ∃ h w, Traffic.Run Errand.act (.new (.millis 5000) .epoch) h w ∧
    (∀ n f, w.flights.get? n = some f → f.rest.Rests) ∧ w.bank.told = [.removed 1, .opened 1 "ann" .usd] ∧
    ¬ w.bank.store.book.ToldBy w.bank.told := by
  let b : Bank := .new (.millis 5000) .epoch
  let opening : Errand := .openAccount "ann" "USD"
  let deletion : Errand := .deleteAccount "ann" 1
  have hr₀ : Traffic.Run Errand.act b [] (Traffic.quiet b) := .start
  have hr₂ := (hr₀.step (.arrival opening)).step (.arrival deletion)
  have hopening : ((Table.empty.put 0 ⟨opening, opening.act, []⟩).put 1 ⟨deletion, deletion.act, []⟩).get? 0 =
    some (⟨opening, opening.act, []⟩ : Flight Errand Unit) := rfl
  -- the account is there, and all that is left of the call is to say so
  obtain ⟨_, w₃, f₃, hr₃, -, hb₃, hf₃, -, hrest₃, hothers₃⟩ := hr₂.path hopening (Timed.path_ahead 10 opening.act b)
  obtain ⟨_, w₄, f₄, hr₄, -, hb₄, hf₄, -, hrest₄, hothers₄⟩ :=
    hr₃.path (n := 1) (hothers₃ 1 (by decide)) (Timed.path_run deletion.act w₃.bank)
  have hf₃' : w₄.flights.get? 0 = some f₃ := (hothers₄ 0 (by decide)).trans hf₃
  obtain ⟨_, w₅, f₅, hr₅, -, hb₅, hf₅, -, hrest₅, hothers₅⟩ := hr₄.path hf₃' (Timed.path_run f₃.rest w₄.bank)
  rw [hb₄, hb₃, hrest₃] at hb₅
  have htold : w₅.bank.told = [.removed 1, .opened 1 "ann" .usd] := by
    rw [hb₅]
    decide +kernel
  have hbook : w₅.bank.store.book.accounts.get? 1 = none := by
    rw [hb₅]
    decide +kernel
  refine ⟨_, w₅, hr₅, fun n f hf => ?_, htold, fun htells => ?_⟩
  · by_cases hzero : n = 0
    · subst hzero
      obtain rfl := Option.some.inj (hf₅.symm.trans hf)
      rw [hrest₅]
      trivial
    · rw [hothers₅ n hzero] at hf
      by_cases hone : n = 1
      · subst hone
        obtain rfl := Option.some.inj (hf₄.symm.trans hf)
        rw [hrest₄]
        trivial
      · rw [hothers₄ n hone, hothers₃ n hzero] at hf
        cases ((Table.get?_put_of_ne hone _).trans (Table.get?_put_of_ne hzero _)).symm.trans hf
  · have hholding := htells.holdings 1
    rw [htold, hbook] at hholding
    cases hholding

/-- Ann and Bob open accounts, Bob over HTTP. A transfer fails to commit, and the next one does not. Carol's
account is opened and deleted. -/
theorem audit_of_session :
    (∃ w, Session (.millis 5000) .epoch w ∧
      w.bank.store.book.accounts.values.map Account.holding = [⟨1, "ann", .cad, -30⟩, ⟨2, "bob", .cad, 30⟩] ∧
      w.bank.told = [.opened 1 "ann" .cad, .opened 2 "bob" .cad, .moved 2 1 2 30, .opened 3 "carol" .usd, .removed 3] ∧
      w.bank.store.book.ToldBy w.bank.told) ∧
    ∃ h w, Traffic.Run Errand.act (.new (.millis 5000) .epoch) h w ∧ ¬ w.bank.store.book.ToldBy w.bank.told ∧
      ∃ changes : List Change, changes.Perm w.bank.told ∧ w.bank.store.book.ToldBy changes := by
  constructor
  · let request : Gateway.Request := ⟨"POST", "/api/v1/accounts",
      [("x-principal", "bob"), ("content-type", "application/json")], "\x7b\"currency\":\"CAD\"\x7d"⟩
    let transfer : Errand := .transfer ⟨1, 2, 30⟩ ⟨true, none⟩
    have hw₀ : Traffic.Shared Errand.act (.new (.millis 5000) .epoch) (Traffic.quiet _) := .start
    obtain ⟨w₁, hw₁, hb₁⟩ := hw₀.alone (.openAccount "ann" "CAD")
    obtain ⟨w₂, hw₂, hb₂⟩ := hw₁.alone (.request request ⟨true, none⟩)
    obtain ⟨w₃, hw₃, hb₃⟩ := hw₂.setting (Faults.none.failOn .commit 1) .epoch []
    obtain ⟨w₄, hw₄, hb₄⟩ := hw₃.alone transfer
    obtain ⟨w₅, hw₅, hb₅⟩ := hw₄.setting .none .epoch []
    obtain ⟨w₆, hw₆, hb₆⟩ := hw₅.alone transfer
    obtain ⟨w₇, hw₇, hb₇⟩ := hw₆.alone (.openAccount "carol" "USD")
    obtain ⟨w₈, hw₈, hb₈⟩ := hw₇.alone (.deleteAccount "carol" 3)
    have hsession := (audit_replays _ _).1 w₈ hw₈
    refine ⟨w₈, hsession, ?_, ?_, (audit_replays _ _).2.1 w₈ hsession⟩
    · rw [hb₈, hb₇, hb₆, hb₅, hb₄, hb₃, hb₂, hb₁]
      decide +kernel
    · rw [hb₈, hb₇, hb₆, hb₅, hb₄, hb₃, hb₂, hb₁]
      decide +kernel
  · obtain ⟨h, w, hr, hrests, -, hnot⟩ := exists_crossing
    exact ⟨h, w, hr, hnot, (audit_replays _ _).2.2.2 h w hr hrests⟩

end Teller

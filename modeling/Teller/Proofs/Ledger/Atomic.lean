import Teller.Proofs.Bank.History
import Teller.Proofs.Ledger.Call
import Teller.Proofs.Transfer.Retry

/-!
# Transfers are all or nothing

Whatever else goes on, an order either succeeds, and then one of its steps adds the rows of its receipt
to the book and its other steps leave the book alone, or it fails or is dropped, and then all its steps
do. Afterwards it holds no lock. Where nothing else goes on, an order that came to nothing may as well
not have been tried (`Order.Untried`).
-/

namespace Teller

/-- The steps leave the book as it is. -/
def BookKept (l : List (Bank × Bank)) : Prop :=
  ∀ s ∈ l, s.2.store.book = s.1.store.book

/-- One of the steps carries the order out, the others leave the book as it is. -/
def Order.CarriedOut (o : Order) (overdraft : Bool) (r : Receipt) (l : List (Bank × Bank)) : Prop :=
  ∃ later b b' earlier, l = later ++ (b, b') :: earlier ∧
    o.Posts overdraft r b.store.book b'.store.book ∧ BookKept (later ++ earlier)

/-- The bank is as if the order had not been tried: once no faults are asked for any more, it comes to
the same, but for the numbers and times of new rows. -/
structure Order.Untried (o : Order) (terms : Terms) (b₀ b : Bank) : Prop where
  book : b.store.book = b₀.store.book
  drafts : b.store.drafts = b₀.store.drafts
  reply : ∀ now now', ((o.execute terms).outcome.run (b.cleared now)).value.map Receipt.content =
    ((o.execute terms).outcome.run (b₀.cleared now')).value.map Receipt.content
  alike : ∀ now now', ((o.execute terms).outcome.run (b.cleared now)).state.store.book.Alike
    ((o.execute terms).outcome.run (b₀.cleared now')).state.store.book

variable {b₀ b : Bank} {o : Order} {terms : Terms} {h : List (Happening Call)} {w : Traffic Call Reply}
  {n : Int} {c : Call} {l : List (Bank × Bank)} {g : Stage Verdict}

theorem Bank.Restored.untried (h : b₀.Restored b) (hs : b₀.store.Sound) (o : Order) (terms : Terms) :
    o.Untried terms b₀ b := by
  have hagain := fun now now' => (h.cleared now' now).again
    ((Store.Move.setting .none now' : Store.Move none _ _).sound hs) rfl rfl o terms
  exact ⟨h.book, h.drafts, fun now now' => (hagain now now').1, fun now now' => (hagain now now').2⟩

theorem Call.book_of_failed {cause : WorkError} {b b' : Bank} (h : c.effect (.failed cause) b b') :
    b'.store.book = b.store.book := by
  cases c with
  | transfer o terms => exact congrArg (·.store.book) h.1
  | submit r terms => exact congrArg (·.store.book) h.1.1
  | _ => exact h.elim

theorem Call.bookKept (h : Amount c.effect l g.verdict) (hg : g.Idle) : BookKept l := by
  cases hv : g.verdict with
  | none =>
    rw [hv] at h
    exact fun s hs => (h s hs).book
  | some x =>
    obtain ⟨cause, rfl⟩ := hg x hv
    rw [hv] at h
    obtain ⟨later, b, b', earlier, rfl, he, hrest⟩ := h
    intro s hs
    rcases List.mem_append.1 hs with hs | hs
    · exact (hrest s (List.mem_append_left _ hs)).book
    rcases List.mem_cons.1 hs with rfl | hs
    · exact Call.book_of_failed he
    · exact (hrest s (List.mem_append_right _ hs)).book

namespace Traffic.Run

/-- The reply to an order says what its steps have done. -/
theorem transfer_reply (hb : b₀.store.Sound) (hr : Traffic.Run Call.act b₀ h w)
    (ha : .arrival n (.transfer o terms) ∈ h) {x : Except TransferError Receipt}
    (hx : w.reply? n = some (.transfer x)) : match x with
      | .ok r => o.CarriedOut terms.overdraft r (steps n h)
      | .error _ => BookKept (steps n h) := by
  obtain ⟨stage, hw, hrec⟩ := Traffic.Run.recorded Call.kept hb hr
  obtain ⟨f, hf, hends⟩ := hw.ends hx
  have hamount := hrec.flight hf
  rw [(hrec.arrival ha).2 f hf] at hamount hends
  replace hends : o.Ends (stage n) x := hends
  cases x with
  | ok r =>
    cases hg : stage n with
    | mk u v =>
      rw [hg] at hends hamount
      cases hends
      obtain ⟨later, b, b', earlier, hl, he, hrest⟩ := hamount
      exact ⟨later, b, b', earlier, hl, he.1, fun s hs => (hrest s hs).book⟩
  | error e => exact Call.bookKept (c := .transfer o terms) hamount hends.idle

theorem departure_bookKept (hb : b₀.store.Sound) (hr : Traffic.Run Call.act b₀ h w)
    (hd : .departure n c ∈ h) : BookKept (steps n h) := by
  obtain ⟨stage, -, hrec⟩ := Traffic.Run.recorded Call.kept hb hr
  obtain ⟨-, -, g, hidle, hamount⟩ := hrec.departure hd
  exact Call.bookKept hamount hidle

/-- A row that was not locked from the start is locked by a call that is under way. -/
theorem holder (hb : b₀.store.Sound) (hr : Traffic.Run Call.act b₀ h w) {k u : Int}
    (hk : w.bank.store.holder? k = some u) : b₀.store.drafts.get? u ≠ none ∨
      ∃ n f, w.flights.get? n = some f ∧ u ∈ f.units ∧ w.reply? n = none := by
  obtain ⟨stage, hw, hrec⟩ := Traffic.Run.recorded Call.kept hb hr
  obtain ⟨d, hd, -⟩ := Store.of_holder?_eq_some hk
  rcases hrec.opened (by rw [hd]; exact Option.some_ne_none d) with hold | ⟨n, f, hf, hu⟩
  · exact .inl hold
  refine .inr ⟨n, f, hf, hw.unit hf hu, ?_⟩
  cases hx : w.reply? n with
  | none => rfl
  | some x =>
    obtain ⟨f', -, hends⟩ := hw.ends hx
    have hnone : (stage n).unit = none := Call.unit_of_ends hends
    rw [hnone] at hu
    cases hu

end Traffic.Run

/-- Among any other calls, an order that succeeds adds the rows of its receipt to the book in one of its
steps, an order that fails or is dropped changes nothing, and neither holds a lock in the end. An order
that nobody interferes with, and that fails or is dropped, may as well not have been tried. -/
theorem transfer_atomic (hb : b.store.Reachable) :
    (∀ h w, Traffic.Run Call.act b h w →
      (∀ n o terms, .arrival n (.transfer o terms) ∈ h →
        (∀ r, w.reply? n = some (.transfer (.ok r)) →
          o.CarriedOut terms.overdraft r (Traffic.steps n h)) ∧
        (∀ e, w.reply? n = some (.transfer (.error e)) → BookKept (Traffic.steps n h))) ∧
      (∀ n c, .departure n c ∈ h → BookKept (Traffic.steps n h)) ∧
      ∀ k u, w.bank.store.holder? k = some u → b.store.drafts.get? u ≠ none ∨
        ∃ n f, w.flights.get? n = some f ∧ u ∈ f.units ∧ w.reply? n = none) ∧
    ∀ o terms m b', Timed.Path (Order.execute o terms).outcome b m b' →
      (∀ e, m = .done (.error e) → o.Untried terms b b') ∧
      (m.Waits → o.Untried terms b
        { b' with store := b'.store.discardFrom b.store.nextDraft }) := by
  have hs := hb.sound
  constructor
  · intro h w hr
    refine ⟨fun n o terms ha => ⟨fun r hx => ?_, fun e hx => ?_⟩, fun n c hd => ?_, fun k u hk => ?_⟩
    · exact hr.transfer_reply hs ha hx
    · exact hr.transfer_reply hs ha hx
    · exact hr.departure_bookKept hs hd
    · exact hr.holder hs hk
  · intro o terms m b' hp
    obtain ⟨g, hbs, hlone, hm⟩ := Order.lone_of_path hs hp
    constructor
    · rintro e rfl
      have hends : o.Ends g (.error e) := hm
      exact (hlone.restored hs hbs hends.unit hends.idle).untried hs o terms
    · intro hwaits
      have hidle : g.Idle := by
        cases m with
        | wait span ready change next late => exact hm.1
        | done r => exact hwaits.elim
        | act change next => exact hwaits.elim
      exact (hlone.dropped hs hbs hidle).untried hs o terms

/-- An order that could not be committed is carried out when it is tried again. -/
theorem transfer_after_failed_commit : ∃ b₀ b : Bank, b₀.store.Reachable ∧
    Timed.Path (Order.execute ⟨1, 2, 30⟩ ⟨false, none⟩).outcome b₀
      (.done (.error (.work (.commit (.injectedAt .commit))))) b ∧
    b.store.book = b₀.store.book ∧
    ((Order.execute ⟨1, 2, 30⟩ ⟨false, none⟩).outcome.run (b.cleared .epoch)).value.map
      Receipt.content =
        .ok ((⟨1, "ann", 70, .cad, .epoch⟩, ⟨2, "bob", 30, .cad, .epoch⟩), (1, 2, 30), (1, -30), (2, 30)) := by
  have hb := Store.reachable_pair (Faults.none.failOn .commit 1)
  have hp := Timed.path_run (Order.execute ⟨1, 2, 30⟩ ⟨false, none⟩).outcome
    ⟨.pair (Faults.none.failOn .commit 1), [], []⟩
  have h := ((transfer_atomic (b := ⟨.pair _, [], []⟩) hb).2 ⟨1, 2, 30⟩ ⟨false, none⟩ _ _ hp).1 _ rfl
  exact ⟨_, _, hb, hp, h.book, (h.reply .epoch .epoch).trans rfl⟩

end Teller

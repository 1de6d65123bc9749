import Teller.Proofs.Transfer.Work

/-!
# Execution of orders among others

An order is carried out in the one step that publishes its draft, and in that step the two adjustments
come to the balances of its receipt. Any other end leaves the book alone: the order was refused before
a unit was opened for it, the unit could not be opened or committed, or the work in it failed, which
is noted while its rows are still locked.
-/

namespace Teller

namespace Order

/-- Why the order is refused whatever the book says. -/
def improper? (o : Order) : Option TransferError :=
  if o.amount ≤ 0 then some .invalidAmount
  else if o.source = o.target then some .sameAccount
  else none

theorem improper?_eq_none_iff {o : Order} : o.improper? = none ↔ 0 < o.amount ∧ o.source ≠ o.target := by
  unfold improper?
  split
  · simp only [reduceCtorEq, false_iff]
    omega
  · split <;> simp <;> omega

theorem execute_of_improper {o : Order} {e : TransferError} (h : o.improper? = some e) (terms : Terms) :
    (o.execute terms).outcome = .done (.error e) := by
  unfold improper? at h
  unfold execute
  dsimp only
  split at h
  · rename_i ho
    cases h
    rw [if_pos ho]
    rfl
  · rename_i ho
    split at h
    · rename_i hne
      cases h
      rw [if_neg ho, if_pos hne]
      rfl
    · cases h

theorem execute_of_proper {o : Order} (h : o.improper? = none) (terms : Terms) : o.execute terms = (do
    let receipt ← ((o.work terms.overdraft).execute terms.deadline).mapError .work
    .sure (.note (.transferCommitted receipt.transfer.id o.source o.target o.amount))
    return receipt) := by
  obtain ⟨ho, hne⟩ := improper?_eq_none_iff.1 h
  unfold execute
  dsimp only
  rw [if_neg (Int.not_le.2 ho), if_neg hne]

/-- Why the unit of work of an order may fail. -/
inductive Fails (inv : Store → Prop) (o : Order) (overdraft : Bool) (b : Book) : WorkError → Prop
  | aborted {e : StoreError} (h : o.Reason inv overdraft b e) : Fails inv o overdraft b (.aborted e)
  | late (limit : Time.Span) : Fails inv o overdraft b (.deadlineExceeded limit)

/-- The step that gives the verdict on an order. -/
def effect (inv : Store → Prop) (o : Order) (overdraft : Bool) : Verdict → Bank → Bank → Prop
  | .posted r, b, b' => o.Posts overdraft r b.store.book b'.store.book ∧ b'.journal = b.journal
  | .failed cause, b, b' =>
    b' = { b with journal := .workFailed cause :: b.journal } ∧ o.improper? = none ∧
      o.Fails inv overdraft b.store.book cause
  | _, _, _ => False

/-- What the execution of an order may do. -/
def conduct (inv : Store → Prop) (o : Order) (overdraft : Bool) : Conduct Verdict :=
  ⟨inv, o.effect inv overdraft, Stage.Idle⟩

/-- How the execution of an order may end. -/
inductive Ends (o : Order) : Stage Verdict → Except TransferError Receipt → Prop
  | improper {e : TransferError} (h : o.improper? = some e) : Ends o ⟨none, none⟩ (.error e)
  | posted (h : o.improper? = none) (r : Receipt) : Ends o ⟨none, some (.posted r)⟩ (.ok r)
  | opening (h : o.improper? = none) (e : StoreError) : Ends o ⟨none, none⟩ (.error (.work (.opening e)))
  | commit (h : o.improper? = none) :
    Ends o ⟨none, none⟩ (.error (.work (.commit (.injectedAt .commit))))
  | failed (h : o.improper? = none) (cause : WorkError) (hknown : ¬ cause.OutcomeUnknown) :
    Ends o ⟨none, some (.failed cause)⟩ (.error (.work cause))
  | rollback (h : o.improper? = none) (cause : WorkError) :
    Ends o ⟨none, some (.failed cause)⟩ (.error (.work (.rollback cause (.injectedAt .rollback))))

variable {o : Order} {overdraft : Bool} {u : Int} {r : Receipt} {s : Store} {inv : Store → Prop}

theorem Ends.unit {g : Stage Verdict} {r : Except TransferError Receipt} (h : o.Ends g r) :
    g.unit = none := by
  cases h <;> rfl

theorem Ends.idle {g : Stage Verdict} {e : TransferError} (h : o.Ends g (.error e)) : g.Idle := by
  cases h with
  | failed h cause => exact fun x hx => ⟨cause, (Option.some.inj hx).symm⟩
  | rollback h cause => exact fun x hx => ⟨cause, (Option.some.inj hx).symm⟩
  | _ => exact Stage.idle_of_none rfl

theorem Fails.outcome_known {b : Book} {cause : WorkError} (h : o.Fails inv overdraft b cause) :
    ¬ cause.OutcomeUnknown := by
  cases h <;> exact id

/-- A unit of work that holds an order's rows publishes them. -/
theorem Ready.publish (h : o.Ready overdraft u r s) (hs : s.Sound) (ho : 0 < o.amount)
    (hne : o.source ≠ o.target) :
    s.publish u = (.ok (), { s.discard u with book := s.book.post r }) ∧
      o.Posts overdraft r s.book (s.book.post r) := by
  obtain ⟨locks, hu⟩ := h.draft
  have hd := hs.draft hu
  have hposts : o.Posts overdraft r s.book (s.book.post r) := by
    refine ⟨ho, hne, h.adjust, h.records, (hd.transfer List.mem_cons_self).2,
      ⟨(hd.entry List.mem_cons_self).2, (hd.entry (List.mem_cons_of_mem _ List.mem_cons_self)).2, ?_⟩, rfl⟩
    exact List.rel_of_pairwise_cons hd.entries List.mem_cons_self
  obtain ⟨x, y, hx, hy, -⟩ := hposts.accounts fun ha => (hs.account ha).1
  obtain ⟨hxid, hyid⟩ := hposts.ids fun ha => (hs.account ha).1
  have hrival : (Draft.rival? ⟨(Table.empty.put r.sourceAccount.id r.sourceAccount).put
      r.targetAccount.id r.targetAccount, [r.sourceEntry, r.targetEntry], [r.transfer], locks⟩
      s.book) = none := by
    refine List.find?_eq_none.2 fun a ha => ?_
    obtain ⟨k, hk⟩ := Table.mem_values.1 ha
    have hka := (hd.account hk).1
    have hmem : s.book.accounts.contains a.id = true := by
      rw [hka, Table.contains_iff]
      rcases Table.get?_put_eq_some_iff.1 hk with ⟨rfl, -⟩ | ⟨-, hk⟩
      · exact ⟨y, hyid ▸ hy⟩
      rcases Table.get?_put_eq_some_iff.1 hk with ⟨rfl, -⟩ | ⟨-, hk⟩
      · exact ⟨x, hxid ▸ hx⟩
      · cases hk
    simp [hmem]
  refine ⟨?_, hposts⟩
  have hbook : (Draft.mk ((Table.empty.put r.sourceAccount.id r.sourceAccount).put r.targetAccount.id
      r.targetAccount) [r.sourceEntry, r.targetEntry] [r.transfer] locks).publish s.book =
      s.book.post r := by
    refine congrArg (fun t => Book.mk t _ _) (Table.ext_get? fun k => ?_)
    refine hd.publish_account.trans ?_
    simp only [Draft.account?, Table.get?_put, Table.get?_empty]
    split
    · rfl
    split <;> rfl
  rw [Store.publish, Store.draft_eq hu]
  dsimp only
  rw [hrival, hbook]

/-- The unit of work of an order keeps to the rules among others. -/
theorem follows_unit (hI : Store.Invariant inv) {terms : Terms}
    (hpost : ∀ {w s s' r}, inv s → Store.Move w s s' → o.Posts terms.overdraft r s.book s'.book → inv s')
    (hproper : o.improper? = none) (b : Bank) :
    (((o.work terms.overdraft).execute terms.deadline).mapError TransferError.work).run.Follows
      (o.conduct inv terms.overdraft).rules (fun g r _ => o.Ends g r) .start b := by
  obtain ⟨ho, hne⟩ := improper?_eq_none_iff.1 hproper
  refine Attempt.follows_mapError.2 (Conduct.follows_execute
    (W := fun u r t => o.Worked inv terms.overdraft u r t.store) hI (fun _ => Stage.idle_of_none)
    (fun e t => .opening hproper e) (fun u t _ hu => Conduct.follows_work hI ho hne hu) (fun u r t ht hr => ?_)
    (fun t => .commit hproper) fun u cause t ht hcause => ?_)
  · obtain ⟨hp, hposts⟩ := Ready.publish hr (hI.sound ht) ho hne
    obtain ⟨locks, hu⟩ := hr.draft
    have hmove : Store.Move (some u) t.store (t.store.publish u).2 := .publish hu
    have hbook : (t.store.publish u).2.book = t.store.book.post r := by rw [hp]
    have hposts' : o.Posts terms.overdraft r t.store.book (t.store.publish u).2.book := by
      rw [hbook]; exact hposts
    refine ⟨⟨none, some (.posted r)⟩, ⟨hpost ht hmove hposts',
      .verdict ⟨hposts', rfl⟩ hmove (by rw [hp]; rfl) rfl (.inr ⟨rfl, fun k hk => ?_⟩)⟩, fun t' => ?_⟩
    · obtain rfl := Option.some.inj hk
      rw [hp]
      exact Table.get?_erase_self _ _
    · rw [hp]
      exact .posted hproper r
  · have hfails : o.Fails inv terms.overdraft t.store.book cause := by
      rcases hcause with ⟨e, rfl, he⟩ | ⟨limit, -, rfl⟩
      · exact .aborted he
      · exact .late limit
    exact ⟨.failed cause, ⟨rfl, hproper, hfails⟩, fun x hx => ⟨cause, (Option.some.inj hx).symm⟩,
      fun t' => .failed hproper cause hfails.outcome_known, fun t' => .rollback hproper cause⟩

/-- The execution of an order keeps to its rules among others. -/
theorem follows_execute (hI : Store.Invariant inv) {terms : Terms}
    (hpost : ∀ {w s s' r}, inv s → Store.Move w s s' → o.Posts terms.overdraft r s.book s'.book → inv s')
    (b : Bank) : (o.execute terms).outcome.Follows (o.conduct inv terms.overdraft).rules
      (fun g r _ => o.Ends g r) .start b := by
  rcases hproper : o.improper? with _ | e
  swap
  · rw [execute_of_improper hproper]
    exact .improper hproper
  show Timed.Follows _ _ (ExceptT.run (o.execute terms)) _ _
  rw [execute_of_proper hproper]
  refine Attempt.follows_bind.2 ((follows_unit hI hpost hproper b).mono fun g r t hends => ?_)
  cases r with
  | error e => exact hends
  | ok r => exact Attempt.follows_sure_bind.2 (Conduct.follows_note (by rintro c ⟨⟩) fun t' _ => hends)

theorem follows_execute_sound (o : Order) (terms : Terms) (b : Bank) :
    (o.execute terms).outcome.Follows (o.conduct Store.Sound terms.overdraft).rules
      (fun g r _ => o.Ends g r) .start b :=
  follows_execute Store.Sound.invariant (fun hs hm _ => hm.sound hs) b

end Order

end Teller

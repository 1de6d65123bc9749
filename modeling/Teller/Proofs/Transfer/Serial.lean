import Mathlib.Data.List.Forall2
import Teller.Proofs.Bank.History
import Teller.Proofs.Transfer.Decision
import Teller.Proofs.Transfer.Retry

/-!
# Orders among others are carried out as if one after the other

`Bank.serially` carries out orders one after the other. In the order of their decisions, without those
that were interrupted, they come to the same as they did among each other, and leave a book that is alike
(`Replayed`). The reason is that an order comes to what it would come to if it were carried out all at
once at the moment of its decision.
-/

namespace Teller

instance : DecidablePred StoreError.Interrupts
  | .lockTimeout _ | .injected _ => .isTrue trivial
  | .notFound _ _ | .insufficientFunds _ _ _ | .balanceOverflow _ | .conflict _ | .uniqueViolation _
  | .foreignKeyViolation _ | .database _ => .isFalse not_false

/-- The unit of work did not end for a reason of its own: it could not be opened, took too long or waited
too long, or a failure was asked for. -/
def WorkError.Interrupted : WorkError → Prop
  | .opening _ => True
  | .aborted e => e.Interrupts
  | .deadlineExceeded _ => True
  | .rollback _ e => e.Interrupts
  | .commit e => e.Interrupts

instance : DecidablePred WorkError.Interrupted
  | .opening _ | .deadlineExceeded _ => .isTrue trivial
  | .aborted e | .rollback _ e | .commit e => inferInstanceAs (Decidable e.Interrupts)

/-- The order came to nothing because its unit of work was interrupted. -/
def TransferError.Interrupted : TransferError → Prop
  | .work e => e.Interrupted
  | _ => False

instance : DecidablePred TransferError.Interrupted
  | .work e => inferInstanceAs (Decidable e.Interrupted)
  | .invalidAmount | .sameAccount | .unsupportedCurrency _ | .accountNotFound _ | .currencyMismatch _ _ _
  | .forbidden _ | .transferNotFound _ | .store _ => .isFalse not_false

/-- The call is over, and was not interrupted. -/
def Traffic.ended (w : Traffic (Order × Terms) (Except TransferError Receipt)) (n : Int) : Bool :=
  match w.reply? n with
  | some (.ok _) => true
  | some (.error e) => decide ¬ e.Interrupted
  | none => false

/-- The decisions on the calls that are kept, and on those that committed. -/
def kept (keep : Int → Bool) (h : List (Happening (Order × Terms))) : List Decision :=
  (decisions h).filter fun d => d.committed || keep d.call

/-- Carries out orders one after the other while no faults are asked for; the list has the latest first. -/
def Bank.serially (b : Bank) : List Decision → List (Except TransferError Receipt) × Bank
  | [] => ([], b)
  | d :: earlier =>
    let (replies, b') := b.serially earlier
    let t := (d.order.execute d.terms).outcome.run (b'.cleared b'.store.now)
    (t.value :: replies, t.state)

/-- A bank at which nothing is going on and nothing is turned away. -/
structure Bank.Calm (b : Bank) : Prop where
  sound : b.store.Sound
  drafts : b.store.drafts = .empty
  refusals : b.refusals = []

/-- What an order comes to is what its decision says. -/
def Decision.Told (d : Decision) (v : Option Verdict) (x : Except TransferError Receipt) : Prop :=
  match d.order.improper?, v with
  | some e, _ => x = .error e
  | none, some (.posted r) => x.map Receipt.content = .ok r.content
  | none, some (.failed cause) => d.committed = false ∧ x = .error (.work cause)
  | none, _ => False

/-- Carrying out the kept orders one after the other comes to the same as the traffic. -/
structure Replayed (b₀ : Bank) (keep : Int → Bool) (h : List (Happening (Order × Terms)))
    (stage : Int → Stage Verdict) (w : Traffic (Order × Terms) (Except TransferError Receipt)) : Prop where
  calm : (b₀.serially (kept keep h)).2.Calm
  alike : w.bank.store.book.Alike (b₀.serially (kept keep h)).2.store.book
  told : List.Forall₂ (fun d x => d ∈ kept keep h ∧ d.Told (stage d.call).verdict x)
    (kept keep h) (b₀.serially (kept keep h)).1

variable {keys : Int → Bool} {keep : Int → Bool} {n : Int} {o : Order} {terms : Terms} {overdraft : Bool} {c : Order × Terms}
  {b₀ b b' : Bank} {bk bk' : Book} {r : Receipt} {d : Decision} {err : StoreError}
  {h : List (Happening (Order × Terms))} {e : Happening (Order × Terms)} {stage stage' : Int → Stage Verdict}
  {w w' : Traffic (Order × Terms) (Except TransferError Receipt)}

/-! ### Settlement -/

theorem Book.Alike.settle (h : bk.Alike bk') :
    o.settle overdraft bk bk.account = o.settle overdraft bk' bk'.account := by
  rw [Order.settle, Order.settle, h.missing?, funext h.account]

/-- An order that is carried out in a book is settled there. -/
theorem Order.Posts.settle (h : o.Posts overdraft r bk bk')
    (hb : ∀ {k a}, bk.accounts.get? k = some a → a.id = k) :
    o.settle overdraft bk bk.account = .ok r.accounts := by
  obtain ⟨x, y, hx, hy, -⟩ := h.accounts hb
  have hmissing : o.missing? bk = none :=
    Order.missing?_eq_none_iff.2 ⟨Table.contains_iff.2 ⟨x, hx⟩, Table.contains_iff.2 ⟨y, hy⟩⟩
  rw [Order.settle_of_present hmissing]
  exact h.adjust

/-- While accounts neither come nor go, work on an order that is not interrupted stops because the order
cannot be settled. -/
theorem Order.Reason.settle (h : o.Reason (Store.Keeps keys) overdraft bk err)
    (hb : ∀ k, bk.accounts.contains k = keys k) (he : ¬ err.Interrupts) :
    o.settle overdraft bk bk.account = .error err := by
  cases h with
  | interrupted h => exact absurd h he
  | missing hs h =>
    rw [Order.missing?_congr fun k => (hs.2 k).trans (hb k).symm] at h
    exact Order.settle_of_missing h
  | vanished hs hs' h h' =>
    rw [Order.missing?_congr fun k => (hs'.2 k).trans (hs.2 k).symm] at h'
    exact absurd h h'
  | denied hs h ha =>
    rw [Order.missing?_congr fun k => (hs.2 k).trans (hb k).symm] at h
    rw [Order.settle_of_present h]
    exact ha

theorem Work.blame_of_not_interrupts (he : ¬ err.Interrupts) (deadline : Option Time.Span)
    (patience : Time.Span) : Work.blame deadline patience err = .aborted err := by
  unfold Work.blame
  split
  · exact absurd trivial he
  · rfl

/-! ### One after the other -/

/-- An order that is carried out at a calm bank is settled there, and leaves it calm. -/
theorem Bank.Calm.execute (hb : b.Calm) (o : Order) (terms : Terms) (now : Time.Instant) :
    ((o.execute terms).outcome.run (b.cleared now)).state.Calm ∧
      ((o.execute terms).outcome.run (b.cleared now)).value.map Receipt.accounts =
        match o.improper? with
        | some e => .error e
        | none => (o.settle terms.overdraft b.store.book b.store.book.account).mapError fun e =>
          .work (Work.blame terms.deadline b.store.patience e) := by
  have hs : (b.cleared now).store.Sound := (Store.Move.setting .none now : Store.Move none _ _).sound hb.sound
  have hran := o.ran terms hs
  refine ⟨⟨hran.sound, hran.drafts.trans hb.drafts, hran.refusals.trans hb.refusals⟩, ?_⟩
  rw [Order.execute_alone hs rfl, Order.foretell]
  have hrefusal : (b.cleared now).refusal? .opening none = none := by
    show ((b.refusals.find? _).map _) = none
    rw [hb.refusals]
    rfl
  have hreach : (b.cleared now).store.reach = b.store.book.account := by
    funext k
    have hfree : (b.cleared now).store.Free none k := by
      refine .inl (Store.holder?_eq_none_iff.2 fun u d hd => ?_)
      replace hd : b.store.drafts.get? u = some d := hd
      rw [hb.drafts] at hd
      cases hd
    exact if_pos hfree
  rw [hrefusal, hreach]
  cases o.improper? <;> rfl

/-- An order that is carried out in a book is carried out in one that is alike. -/
theorem Bank.Calm.posts (hb : b.Calm) (ha : bk.Alike b.store.book) (hp : o.Posts terms.overdraft r bk bk')
    (hids : ∀ {k a}, bk.accounts.get? k = some a → a.id = k) (now : Time.Instant) :
    ((o.execute terms).outcome.run (b.cleared now)).value.map Receipt.content = .ok r.content ∧
      bk'.Alike ((o.execute terms).outcome.run (b.cleared now)).state.store.book := by
  have hran := o.ran terms (b := b.cleared now)
    ((Store.Move.setting .none now : Store.Move none _ _).sound hb.sound)
  have hvalue := (hb.execute o terms now).2
  rw [Order.improper?_eq_none_iff.2 ⟨hp.amount, hp.distinct⟩, ← ha.settle, hp.settle hids] at hvalue
  cases hv : ((o.execute terms).outcome.run (b.cleared now)).value with
  | error e =>
    rw [hv] at hvalue
    cases hvalue
  | ok r' =>
    rw [hv] at hvalue
    have haccounts : r'.accounts = r.accounts := Except.ok.inj hvalue
    have hp' := hran.ok r' hv
    refine ⟨congrArg Except.ok ?_, hp.alike hp' haccounts.symm ha⟩
    rw [hp.records.content, hp'.records.content, haccounts]

theorem Bank.Calm.fails (hb : b.Calm) {now : Time.Instant} {e : TransferError}
    (hx : ((o.execute terms).outcome.run (b.cleared now)).value.map Receipt.accounts = .error e) :
    ((o.execute terms).outcome.run (b.cleared now)).value = .error e ∧
      ((o.execute terms).outcome.run (b.cleared now)).state.store.book = b.store.book := by
  have hran := o.ran terms (b := b.cleared now)
    ((Store.Move.setting .none now : Store.Move none _ _).sound hb.sound)
  cases hv : ((o.execute terms).outcome.run (b.cleared now)).value with
  | ok r =>
    rw [hv] at hx
    cases hx
  | error e' =>
    rw [hv] at hx
    cases hx
    exact ⟨rfl, hran.error _ hv⟩

/-! ### The replay -/

namespace Replayed

theorem start (hb : b₀.Calm) (hbook : b.store.book = b₀.store.book) (keep : Int → Bool)
    (stage : Int → Stage Verdict) : Replayed b₀ keep [] stage (Traffic.quiet b) := by
  refine ⟨hb, ?_, .nil⟩
  show b.store.book.Alike b₀.store.book
  rw [hbook]
  exact .refl _

/-- What decisions say about the calls does not change. -/
theorem told_mono (hr : Replayed b₀ keep h stage w) (hd : Decided (decisions h) stage w)
    (hs : Traffic.Step Order.call w e w') (hadv : (Order.protocol keys).Advance stage e stage') :
    List.Forall₂ (fun d x => d ∈ kept keep (e :: h) ∧ d.Told (stage' d.call).verdict x)
      (kept keep h) (b₀.serially (kept keep h)).1 := by
  refine hr.told.imp fun d x ⟨hmem, htold⟩ => ?_
  obtain ⟨hmem, hkeep⟩ := List.mem_filter.1 hmem
  refine ⟨List.mem_filter.2 ⟨mem_decisions_cons hmem e, hkeep⟩, ?_⟩
  have hlt := (hd.known d hmem).next
  unfold Decision.Told at htold ⊢
  cases hproper : d.order.improper? with
  | some e =>
    rw [hproper] at htold
    exact htold
  | none =>
    cases hv : (stage d.call).verdict with
    | none =>
      rw [hproper, hv] at htold
      exact htold.elim
    | some y =>
      rw [hproper, hv] at htold
      rw [hadv.verdict hs hlt hv]
      exact htold

theorem skip (hr : Replayed b₀ keep h stage w) (hd : Decided (decisions h) stage w)
    (hs : Traffic.Step Order.call w e w') (hadv : (Order.protocol keys).Advance stage e stage')
    (hkept : kept keep (e :: h) = kept keep h) (hbook : w'.bank.store.book = w.bank.store.book) :
    Replayed b₀ keep (e :: h) stage' w' := by
  have htold := hr.told_mono hd hs hadv
  rw [hkept] at htold
  refine ⟨?_, ?_, ?_⟩ <;> rw [hkept]
  · exact hr.calm
  · rw [hbook]
    exact hr.alike
  · exact htold

theorem take (hr : Replayed b₀ keep h stage w) (hd : Decided (decisions h) stage w)
    (hs : Traffic.Step Order.call w e w') (hadv : (Order.protocol keys).Advance stage e stage')
    (he : e.decision? = some d) (hkept : (d.committed || keep d.call) = true)
    (htake : ∀ (b : Bank) (now : Time.Instant), b.Calm → w.bank.store.book.Alike b.store.book →
      d.Told (stage' d.call).verdict ((d.order.execute d.terms).outcome.run (b.cleared now)).value ∧
      w'.bank.store.book.Alike ((d.order.execute d.terms).outcome.run (b.cleared now)).state.store.book) :
    Replayed b₀ keep (e :: h) stage' w' := by
  have hcons : kept keep (e :: h) = d :: kept keep h := by
    rw [kept, decisions_of_some he]
    exact List.filter_cons_of_pos hkept
  have hold := hr.told_mono hd hs hadv
  rw [hcons] at hold
  obtain ⟨htold, halike⟩ := htake _ (b₀.serially (kept keep h)).2.store.now hr.calm hr.alike
  refine ⟨?_, ?_, ?_⟩ <;> rw [hcons]
  · exact (hr.calm.execute d.order d.terms _).1
  · exact halike
  · exact .cons ⟨List.mem_cons_self, htold⟩ hold

theorem kept_of_none (he : e.decision? = none) : kept keep (e :: h) = kept keep h := by
  rw [kept, decisions_of_none he, kept]

theorem kept_of_not (he : e.decision? = some d) (hd : (d.committed || keep d.call) = false) :
    kept keep (e :: h) = kept keep h := by
  rw [kept, decisions_of_some he, List.filter_cons_of_neg (by rw [hd]; exact Bool.false_ne_true), kept]

/-- Whatever happens, the replay keeps up with it. -/
theorem step (hw : (Order.protocol keys).Orderly stage w) (hd : Decided (decisions h) stage w)
    (hr : Replayed b₀ keep h stage w) (hs : Traffic.Step Order.call w e w')
    (hadv : (Order.protocol keys).Advance stage e stage')
    (hkeep : ∀ n cause, n < w'.next → (stage' n).verdict = some (.failed cause) → keep n = true →
      ¬ cause.Interrupted) : Replayed b₀ keep (e :: h) stage' w' := by
  have hs' := hs
  cases hs with
  | arrival c =>
    cases hc : c.1.improper? with
    | none =>
      have he : (Happening.arrival w.next c).decision? = none := by rw [Happening.decision?, hc]; rfl
      exact hr.skip hd hs' hadv (kept_of_none he) rfl
    | some err =>
      have he : (Happening.arrival w.next c).decision? = some ⟨w.next, c.1, c.2, false⟩ := by
        rw [Happening.decision?, hc]
        rfl
      cases hk : keep w.next with
      | false => exact hr.skip hd hs' hadv (kept_of_not he hk) rfl
      | true =>
        refine hr.take hd hs' hadv he hk fun b now hb ha => ?_
        have hvalue := (hb.execute c.1 c.2 now).2
        rw [hc] at hvalue
        obtain ⟨hx, hbook⟩ := hb.fails hvalue
        unfold Decision.Told
        rw [hx, hbook, hc]
        exact ⟨rfl, ha⟩
  | @move n f m b hf hm =>
    -- an order comes to the same alone, if it is carried out at the moment of its decision
    rcases hadv.2.decides n with ⟨he, hbook, -⟩ | ⟨hproper, -, ⟨r, he, hx, hp⟩ | ⟨cause, he, hx, hbook, hfails⟩⟩
    · exact hr.skip hd hs' hadv (kept_of_none he) hbook
    · refine hr.take hd hs' hadv he rfl fun b now hb ha => ?_
      unfold Decision.Told
      rw [hproper, hx]
      exact hb.posts ha hp (fun hk => (hw.inv.1.account hk).1) now
    · cases hk : keep n with
      | false => exact hr.skip hd hs' hadv (kept_of_not he hk) hbook
      | true =>
        have hnot := hkeep n cause (hw.next hf) hx hk
        cases hfails with
        | late limit => exact absurd trivial hnot
        | @aborted err hreason =>
          have hsettle := hreason.settle hw.inv.2 hnot
          refine hr.take hd hs' hadv he hk fun b' now hb ha => ?_
          have hvalue := (hb.execute f.call.1 f.call.2 now).2
          rw [hproper, ← ha.settle, hsettle] at hvalue
          dsimp only [Except.mapError] at hvalue
          rw [Work.blame_of_not_interrupts hnot] at hvalue
          obtain ⟨hy, hbook'⟩ := hb.fails hvalue
          unfold Decision.Told
          rw [hy, hbook', hproper, hx]
          refine ⟨⟨rfl, rfl⟩, ?_⟩
          show b.store.book.Alike _
          rw [hbook]
          exact ha
  | departure hf hwait =>
    exact hr.skip hd hs' hadv (kept_of_none rfl) (Store.discardAll_book _ _)
  | change faults now refusals => exact hr.skip hd hs' hadv (kept_of_none rfl) rfl

end Replayed

theorem Traffic.Run.replayed (hr : Traffic.Run Order.call b h w) (hb : Store.Keeps keys b.store)
    (hb₀ : b₀.Calm) (hbook : b.store.book = b₀.store.book) : ∃ stage,
      (Order.protocol keys).Orderly stage w ∧ Decided (decisions h) stage w ∧
      ∀ keep, (∀ n cause, n < w.next → (stage n).verdict = some (.failed cause) → keep n = true →
        ¬ cause.Interrupted) → Replayed b₀ keep h stage w := by
  induction hr with
  | start => exact ⟨fun _ => .start, .quiet _ _ hb, .start _ b, fun keep _ => .start hb₀ hbook keep _⟩
  | step hr hs ih =>
    obtain ⟨stage, hw, hd, hreplayed⟩ := ih
    obtain ⟨stage', hw', hadv⟩ := hw.step (Order.kept keys) hs
    refine ⟨stage', hw', hd.step hw hs hadv, fun keep hkeep => ?_⟩
    refine (hreplayed keep fun n cause hn hx hk => ?_).step hw hd hs hadv hkeep
    exact hkeep n cause (Int.lt_of_lt_of_le hn hs.next_le) (hadv.verdict hs hn hx) hk

theorem Traffic.ended_iff : w.ended n = true ↔
    ∃ x, w.reply? n = some x ∧ ∀ e, x = .error e → ¬ e.Interrupted := by
  unfold ended
  cases w.reply? n with
  | none => simp
  | some x => cases x <;> simp

/-- A call that is over and was not interrupted has been decided. -/
theorem Order.Ends.of_not_interrupted {g : Stage Verdict} {x : Except TransferError Receipt} (h : o.Ends g x)
    (hx : ∀ e, x = .error e → ¬ e.Interrupted) : o.improper? ≠ none ∨ g.verdict ≠ none := by
  cases h with
  | improper h => exact .inl (by rw [h]; exact Option.some_ne_none _)
  | opening h e => exact absurd trivial (hx _ rfl)
  | commit h => exact absurd trivial (hx _ rfl)
  | _ => exact .inr (Option.some_ne_none _)

/-- Work that failed, and was not interrupted, stopped for a reason of its own. -/
theorem Order.Ends.of_failed {g : Stage Verdict} {x : Except TransferError Receipt} {cause : WorkError}
    (h : o.Ends g x) (hv : g.verdict = some (.failed cause)) (hx : ∀ e, x = .error e → ¬ e.Interrupted) :
    ¬ cause.Interrupted := by
  cases h with
  | failed h cause' hknown =>
    cases hv
    exact hx _ rfl
  | rollback h cause' => exact absurd trivial (hx _ rfl)
  | _ => cases hv

/-- The reply to an order is what it comes to alone. -/
theorem Decision.Told.content {g : Stage Verdict} {x y : Except TransferError Receipt}
    (h : d.Told g.verdict x) (hy : d.order.Ends g y)
    (hnot : d.committed = false → ∀ e, y = .error e → ¬ e.Interrupted) :
    y.map Receipt.content = x.map Receipt.content := by
  unfold Decision.Told at h
  cases hy with
  | improper hi =>
    rw [hi] at h
    rw [h]
  | posted hi r =>
    rw [hi] at h
    exact h.symm
  | failed hi cause hknown =>
    rw [hi] at h
    rw [h.2]
  | rollback hi cause =>
    rw [hi] at h
    exact absurd trivial (hnot h.1 _ rfl)
  | opening hi e =>
    rw [hi] at h
    exact h.elim
  | commit hi =>
    rw [hi] at h
    exact h.elim

/-- Orders that are carried out among each other come to what they come to one after the other, in the
order of their decisions and without those that were interrupted. -/
theorem transfers_serializable (hb : b.store.Reachable) (hdrafts : b.store.drafts = .empty)
    (hr : Traffic.Run Order.call b h w) :
    ((kept w.ended h).map (·.call)).Nodup ∧
    (∀ n o terms, .arrival n (o, terms) ∈ h → w.ended n = true →
      ∃ committed, ⟨n, o, terms, committed⟩ ∈ kept w.ended h) ∧
    List.Forall₂ (fun d x => ∀ y, w.reply? d.call = some y → y.map Receipt.content = x.map Receipt.content)
      (kept w.ended h) (b.admitAll.serially (kept w.ended h)).1 ∧
    w.bank.store.book.Alike (b.admitAll.serially (kept w.ended h)).2.store.book := by
  have hs := hb.sound
  have hkeys : Store.Keeps b.store.book.accounts.contains b.store := ⟨hs, fun k => rfl⟩
  obtain ⟨stage, hw, hd, hreplayed⟩ := hr.replayed hkeys (⟨hs, hdrafts, rfl⟩ : b.admitAll.Calm) rfl
  obtain ⟨_, -, hrec⟩ := hr.recorded (Order.kept b.store.book.accounts.contains) hkeys
  have hrep := hreplayed w.ended fun n cause _ hv hk => by
    obtain ⟨x, hx, hnot⟩ := Traffic.ended_iff.1 hk
    obtain ⟨f, -, hends⟩ := hw.ends hx
    exact hends.of_failed hv hnot
  refine ⟨hd.once.sublist (List.filter_sublist.map _), fun n o terms ha hn => ?_, ?_, hrep.alike⟩
  · obtain ⟨x, hx, hnot⟩ := Traffic.ended_iff.1 hn
    obtain ⟨f, hf, hends⟩ := hw.ends hx
    obtain ⟨committed, hmem⟩ := hd.found n f hf (hends.of_not_interrupted hnot)
    rw [(hrec.arrival ha).2 f hf] at hmem
    exact ⟨committed, List.mem_filter.2 ⟨hmem, Bool.or_eq_true_iff.2 (.inr hn)⟩⟩
  · refine hrep.told.imp fun d x ⟨hmem, htold⟩ y hy => ?_
    obtain ⟨hmem, hkept⟩ := List.mem_filter.1 hmem
    obtain ⟨f, hf, hends⟩ := hw.ends hy
    replace hends : f.call.1.Ends (stage d.call) y := hends
    rw [(hd.known d hmem).call f hf] at hends
    refine htold.content hends fun hc => ?_
    rw [hc] at hkept
    obtain ⟨y', hy', hnot⟩ := Traffic.ended_iff.1 hkept
    rw [hy] at hy'
    cases hy'
    exact hnot

/-- Of two orders that spend the same money, one is carried out. -/
theorem serializable_two_debits : ∃ h w n, Traffic.Run Order.call ⟨.pair .none, [], []⟩ h w ∧
    w.reply? n = some (.error (.work (.aborted (.insufficientFunds 1 40 (-60))))) ∧
    w.bank.store.book.Alike
      ((Bank.mk (.pair .none) [] []).admitAll.serially (kept w.ended h)).2.store.book := by
  have hr : Traffic.Run Order.call ⟨.pair .none, [], []⟩ [] (.quiet _) := .start
  obtain ⟨h₁, w₁, hr₁, hb₁, -⟩ := hr.alone (⟨1, 2, 60⟩, ⟨false, none⟩)
  obtain ⟨h₂, w₂, hr₂, -, hx⟩ := hr₁.alone (⟨1, 2, 60⟩, ⟨false, none⟩)
  refine ⟨h₂, w₂, w₁.next, hr₂, ?_, ?_⟩
  · rw [hx, hb₁]
    rfl
  · exact (transfers_serializable (Store.reachable_pair .none) rfl hr₂).2.2.2

end Teller

import Mathlib.Data.List.Nodup
import Teller.Proofs.Bank.Orderly
import Teller.Proofs.Transfer.Execute

/-!
# When orders are decided

While orders are carried out and accounts neither come nor go (`Order.protocol`), there is one moment at
which an order is decided: it is refused as it comes in, it is committed, or the work on it has failed.
`decisions` reads these moments off the history of a traffic, and `Decided` says that the stages of the
calls agree with them.
-/

namespace Teller

/-- A moment at which an order was decided. -/
structure Decision where
  call : Int
  order : Order
  terms : Terms
  /-- The order was committed then. -/
  committed : Bool

/-- The step commits a transfer. -/
def Bank.Commits (b b' : Bank) : Prop :=
  b.store.book.transfers.size < b'.store.book.transfers.size

instance (b b' : Bank) : Decidable (b.Commits b') := by
  unfold Bank.Commits
  infer_instance

/-- The failure of a unit of work that the step notes. -/
def Bank.failure? (b b' : Bank) : Option WorkError :=
  match b'.journal with
  | .workFailed cause :: rest => if rest = b.journal then some cause else none
  | _ => none

/-- The decision on an order that a happening brings. -/
def Happening.decision? : Happening (Order × Terms) → Option Decision
  | .arrival n c => c.1.improper?.map fun _ => ⟨n, c.1, c.2, false⟩
  | .move n c b b' =>
    if b.Commits b' then some ⟨n, c.1, c.2, true⟩
    else (b.failure? b').map fun _ => ⟨n, c.1, c.2, false⟩
  | .departure _ _ => none
  | .change => none

/-- The decisions of a history, latest first. -/
def decisions (h : List (Happening (Order × Terms))) : List Decision :=
  h.filterMap Happening.decision?

/-- The store has the accounts of these numbers, and no others. -/
def Store.Keeps (keys : Int → Bool) (s : Store) : Prop :=
  s.Sound ∧ ∀ k, s.book.accounts.contains k = keys k

/-- What the bank does for an order. -/
def Order.call (c : Order × Terms) : Act (Except TransferError Receipt) :=
  (c.1.execute c.2).outcome

/-- Orders and their rules, while there are these accounts. -/
def Order.protocol (keys : Int → Bool) : Protocol (Order × Terms) (Except TransferError Receipt) Verdict :=
  ⟨Order.call, Store.Keeps keys, fun c => c.1.effect (Store.Keeps keys) c.2.overdraft, Stage.Idle,
    fun c => c.1.Ends⟩

/-- The order of the decision has been decided. -/
structure Decision.Known (d : Decision) (stage : Int → Stage Verdict)
    (w : Traffic (Order × Terms) (Except TransferError Receipt)) : Prop where
  next : d.call < w.next
  decided : d.order.improper? ≠ none ∨ (stage d.call).verdict ≠ none
  call : ∀ f, w.flights.get? d.call = some f → f.call = (d.order, d.terms)

/-- The decisions are those that the stages of the calls know of. -/
structure Decided (l : List Decision) (stage : Int → Stage Verdict)
    (w : Traffic (Order × Terms) (Except TransferError Receipt)) : Prop where
  known : ∀ d ∈ l, d.Known stage w
  found : ∀ n f, w.flights.get? n = some f → f.call.1.improper? ≠ none ∨ (stage n).verdict ≠ none →
    ∃ committed, ⟨n, f.call.1, f.call.2, committed⟩ ∈ l
  once : (l.map (·.call)).Nodup

variable {keys : Int → Bool} {n : Int} {c : Order × Terms} {b b' : Bank} {d : Decision} {l : List Decision}
  {h : List (Happening (Order × Terms))} {e : Happening (Order × Terms)} {stage stage' : Int → Stage Verdict}
  {w w' : Traffic (Order × Terms) (Except TransferError Receipt)} {g g' : Stage Verdict}

/-! ### Rules -/

theorem Store.Keeps.invariant (keys : Int → Bool) : Store.Invariant (Store.Keeps keys) where
  sound h := h.1
  quiet h hm hbook := ⟨hm.sound h.1, fun k => by rw [hbook]; exact h.2 k⟩

/-- Orders keep to their rules, and no account comes or goes by them. -/
theorem Order.kept (keys : Int → Bool) : (Order.protocol keys).Kept where
  invariant := Store.Keeps.invariant keys
  follows c b _ := by
    refine Order.follows_execute (Store.Keeps.invariant keys) (fun hs hm hp => ?_) b
    refine ⟨hm.sound hs.1, fun k => ?_⟩
    rw [hp.contains fun ha => (hs.1.account ha).1]
    exact hs.2 k

/-! ### Decisions -/

theorem Bank.not_commits (h : b'.store.book = b.store.book) : ¬ b.Commits b' := by
  unfold Bank.Commits
  rw [h]
  exact Nat.lt_irrefl _

theorem Bank.Quiet.failure? (h : b.Quiet b') : b.failure? b' = none := by
  unfold Bank.failure?
  split
  · rename_i cause rest hj
    refine if_neg ?_
    rintro rfl
    exact h.journal cause hj
  · rfl

/-- A step that is not quiet decides the order. -/
theorem Turn.decides (ht : Turn (c.1.effect (Store.Keeps keys) c.2.overdraft) g b g' b') (n : Int) :
    (Happening.move n c b b').decision? = none ∧ b'.store.book = b.store.book ∧ g'.verdict = g.verdict ∨
      c.1.improper? = none ∧ g.verdict = none ∧
        ((∃ r, (Happening.move n c b b').decision? = some ⟨n, c.1, c.2, true⟩ ∧
            g'.verdict = some (.posted r) ∧ c.1.Posts c.2.overdraft r b.store.book b'.store.book) ∨
          ∃ cause, (Happening.move n c b b').decision? = some ⟨n, c.1, c.2, false⟩ ∧
            g'.verdict = some (.failed cause) ∧ b'.store.book = b.store.book ∧
            c.1.Fails (Store.Keeps keys) c.2.overdraft b.store.book cause) := by
  rcases ht.quiet_or_effect with ⟨hq, hv⟩ | ⟨x, hnone, hx, he⟩
  · refine .inl ⟨?_, hq.book, hv⟩
    rw [Happening.decision?, if_neg (Bank.not_commits hq.book), hq.failure?]
    rfl
  · cases x with
    | posted r =>
      have hproper := Order.improper?_eq_none_iff.2 ⟨he.1.amount, he.1.distinct⟩
      have hcommits : b.Commits b' := by
        have hsize : b'.store.book.transfers.size = b.store.book.transfers.size + 1 := by
          rw [he.1.book]
          exact Table.size_put_new he.1.newTransfer
        unfold Bank.Commits
        omega
      exact .inr ⟨hproper, hnone, .inl ⟨r, if_pos hcommits, hx, he.1⟩⟩
    | failed cause =>
      obtain ⟨rfl, hproper, hfails⟩ := he
      refine .inr ⟨hproper, hnone, .inr ⟨cause, ?_, hx, rfl, hfails⟩⟩
      have hfailure : b.failure? { b with journal := .workFailed cause :: b.journal } = some cause :=
        if_pos rfl
      refine (if_neg (Bank.not_commits rfl)).trans ?_
      rw [hfailure]
      rfl
    | opened a => exact he.elim
    | removed id => exact he.elim

theorem decisions_of_none (he : e.decision? = none) : decisions (e :: h) = decisions h :=
  List.filterMap_cons_none he

theorem decisions_of_some (he : e.decision? = some d) : decisions (e :: h) = d :: decisions h :=
  List.filterMap_cons_some he

theorem mem_decisions_cons (hd : d ∈ decisions h) (e : Happening (Order × Terms)) :
    d ∈ decisions (e :: h) := by
  cases he : e.decision? with
  | none => rwa [decisions_of_none he]
  | some d' =>
    rw [decisions_of_some he]
    exact List.mem_cons_of_mem _ hd

namespace Decided

theorem start (stage : Int → Stage Verdict) (b : Bank) : Decided [] stage (Traffic.quiet b) where
  known d hd := by cases hd
  found n f hf := by cases hf
  once := List.nodup_nil

/-- One more decision, on a call that had not been decided. -/
theorem cons (hknown : ∀ d' ∈ l, d'.Known stage w) (hd : d.Known stage w) (hne : ∀ d' ∈ l, d'.call ≠ d.call)
    (hfound : ∀ n f, n ≠ d.call → w.flights.get? n = some f →
      f.call.1.improper? ≠ none ∨ (stage n).verdict ≠ none →
      ∃ committed, ⟨n, f.call.1, f.call.2, committed⟩ ∈ l)
    (honce : (l.map (·.call)).Nodup) : Decided (d :: l) stage w := by
  refine ⟨fun d' hmem => ?_, fun n f hf hx => ?_, ?_⟩
  · rcases List.mem_cons.1 hmem with rfl | hmem
    · exact hd
    · exact hknown d' hmem
  · by_cases hn : n = d.call
    · subst hn
      refine ⟨d.committed, ?_⟩
      rw [hd.call f hf]
      exact List.mem_cons_self
    · obtain ⟨committed, hmem⟩ := hfound n f hn hf hx
      exact ⟨committed, List.mem_cons_of_mem _ hmem⟩
  · rw [List.map_cons, List.nodup_cons]
    refine ⟨fun hmem => ?_, honce⟩
    obtain ⟨d', hmem, heq⟩ := List.mem_map.1 hmem
    exact hne d' hmem heq

theorem of_arrival (hd : Decided (decisions h) stage w) (c : Order × Terms) :
    Decided (decisions (.arrival w.next c :: h)) (Function.update stage w.next .start)
      { w with flights := w.flights.put w.next ⟨c, Order.call c, []⟩, next := w.next + 1 } := by
  have hknown : ∀ d ∈ decisions h, d.Known (Function.update stage w.next .start)
      { w with flights := w.flights.put w.next ⟨c, Order.call c, []⟩, next := w.next + 1 } := by
    intro d hmem
    have hk := hd.known d hmem
    have hne := Int.ne_of_lt hk.next
    refine ⟨Int.lt_trans hk.next (Int.lt_succ _), ?_, fun f hf => hk.call f ?_⟩
    · rw [Function.update_of_ne hne]
      exact hk.decided
    · exact (Table.get?_put_of_ne hne _).symm.trans hf
  have hfound : ∀ n f, n ≠ w.next → (w.flights.put w.next ⟨c, Order.call c, []⟩).get? n = some f →
      f.call.1.improper? ≠ none ∨ (Function.update stage w.next .start n).verdict ≠ none →
      ∃ committed, ⟨n, f.call.1, f.call.2, committed⟩ ∈ decisions h := by
    intro n f hn hf hx
    rw [Table.get?_put_of_ne hn] at hf
    rw [Function.update_of_ne hn] at hx
    exact hd.found n f hf hx
  cases hc : c.1.improper? with
  | none =>
    rw [decisions_of_none (by rw [Happening.decision?, hc]; rfl)]
    refine ⟨hknown, fun n f hf hx => hfound n f ?_ hf hx, hd.once⟩
    rintro rfl
    rw [Table.get?_put_self] at hf
    cases hf
    rw [Function.update_self] at hx
    rcases hx with hx | hx
    · exact hx hc
    · exact hx rfl
  -- an improper order is decided as soon as it comes in
  | some err =>
    have he : (Happening.arrival w.next c).decision? = some ⟨w.next, c.1, c.2, false⟩ := by
      rw [Happening.decision?, hc]
      rfl
    rw [decisions_of_some he]
    refine .cons hknown ⟨Int.lt_succ _, .inl ?_, fun f hf => ?_⟩ (fun d hmem => ?_) hfound hd.once
    · rw [hc]
      exact Option.some_ne_none _
    · rw [Table.get?_put_self] at hf
      cases hf
      rfl
    · exact Int.ne_of_lt (hd.known d hmem).next

theorem of_move (hw : (Order.protocol keys).Orderly stage w) (hd : Decided (decisions h) stage w)
    {f : Flight (Order × Terms) (Except TransferError Receipt)} (hf : w.flights.get? n = some f)
    {m : Act (Except TransferError Receipt)} {units : List Int} (hstage : ∀ k, k ≠ n → stage' k = stage k)
    (ht : Turn (f.call.1.effect (Store.Keeps keys) f.call.2.overdraft) (stage n) w.bank (stage' n) b) :
    Decided (decisions (.move n f.call w.bank b :: h)) stage'
      { w with bank := b, flights := w.flights.put n ⟨f.call, m, units⟩ } := by
  have hcall : ∀ k f', (w.flights.put n ⟨f.call, m, units⟩).get? k = some f' →
      ∃ f'', w.flights.get? k = some f'' ∧ f''.call = f'.call := by
    intro k f' hf'
    by_cases hk : k = n
    · subst hk
      rw [Table.get?_put_self] at hf'
      cases hf'
      exact ⟨f, hf, rfl⟩
    · rw [Table.get?_put_of_ne hk] at hf'
      exact ⟨f', hf', rfl⟩
  have hknown : ∀ d ∈ decisions h, (stage' d.call).verdict = (stage d.call).verdict → d.Known stage'
      { w with bank := b, flights := w.flights.put n ⟨f.call, m, units⟩ } := by
    intro d hmem hverdict
    have hk := hd.known d hmem
    refine ⟨hk.next, by rw [hverdict]; exact hk.decided, fun f' hf' => ?_⟩
    obtain ⟨f'', hf'', heq⟩ := hcall _ f' hf'
    rw [← heq, hk.call f'' hf'']
  have hfound : ∀ k f', (stage' k).verdict = (stage k).verdict →
      (w.flights.put n ⟨f.call, m, units⟩).get? k = some f' →
      f'.call.1.improper? ≠ none ∨ (stage' k).verdict ≠ none →
      ∃ committed, ⟨k, f'.call.1, f'.call.2, committed⟩ ∈ decisions h := by
    intro k f' hverdict hf' hx
    obtain ⟨f'', hf'', heq⟩ := hcall k f' hf'
    rw [← heq, hverdict] at hx
    rw [← heq]
    exact hd.found k f'' hf'' hx
  rcases ht.decides n with ⟨he, -, hv⟩ | ⟨hproper, hnone, hdecides⟩
  · have hverdict : ∀ k, (stage' k).verdict = (stage k).verdict := by
      intro k
      by_cases hk : k = n
      · rw [hk, hv]
      · rw [hstage k hk]
    rw [decisions_of_none he]
    exact ⟨fun d hmem => hknown d hmem (hverdict _), fun k f' => hfound k f' (hverdict k), hd.once⟩
  · obtain ⟨committed, he, hx⟩ : ∃ committed, (Happening.move n f.call w.bank b).decision? =
        some ⟨n, f.call.1, f.call.2, committed⟩ ∧ (stage' n).verdict ≠ none := by
      rcases hdecides with ⟨r, he, hx, -⟩ | ⟨cause, he, hx, -⟩
      · exact ⟨true, he, by rw [hx]; exact Option.some_ne_none _⟩
      · exact ⟨false, he, by rw [hx]; exact Option.some_ne_none _⟩
    -- an order is decided only once
    have hne : ∀ d ∈ decisions h, d.call ≠ n := by
      rintro d hmem rfl
      have hk := hd.known d hmem
      rw [hk.call f hf] at hproper
      rcases hk.decided with hx | hx
      · exact hx hproper
      · exact hx hnone
    have hverdict : ∀ k, k ≠ n → (stage' k).verdict = (stage k).verdict := fun k hk => by rw [hstage k hk]
    rw [decisions_of_some he]
    refine .cons (fun d hmem => hknown d hmem (hverdict _ (hne d hmem)))
      ⟨hw.next hf, .inr hx, fun f' hf' => ?_⟩ hne (fun k f' hk => hfound k f' (hverdict k hk)) hd.once
    rw [Table.get?_put_self] at hf'
    cases hf'
    rfl

theorem of_departure (hd : Decided l stage w) (n : Int) (b : Bank) :
    Decided l (Function.update stage n ⟨none, (stage n).verdict⟩)
      { w with bank := b, flights := w.flights.erase n } := by
  have hverdict : ∀ k, (Function.update stage n ⟨none, (stage n).verdict⟩ k).verdict = (stage k).verdict := by
    intro k
    by_cases hk : k = n
    · rw [hk, Function.update_self]
    · rw [Function.update_of_ne hk]
  have hget : ∀ k f, (w.flights.erase n).get? k = some f → w.flights.get? k = some f :=
    fun k f hf => (Table.get?_erase_eq_some_iff.1 hf).2
  refine ⟨fun d hmem => ?_, fun k f hf hx => ?_, hd.once⟩
  · have hk := hd.known d hmem
    exact ⟨hk.next, by rw [hverdict]; exact hk.decided, fun f hf => hk.call f (hget _ f hf)⟩
  · rw [hverdict] at hx
    exact hd.found k f (hget k f hf) hx

theorem step (hw : (Order.protocol keys).Orderly stage w) (hd : Decided (decisions h) stage w)
    (hs : Traffic.Step Order.call w e w') (hadv : (Order.protocol keys).Advance stage e stage') :
    Decided (decisions (e :: h)) stage' w' := by
  cases hs with
  | arrival c =>
    obtain rfl : stage' = Function.update stage w.next .start := hadv
    exact hd.of_arrival c
  | move hf hm => exact hd.of_move hw hf hadv.1 hadv.2
  | departure hf hwait =>
    obtain ⟨rfl, -⟩ := hadv
    rw [decisions_of_none rfl]
    exact hd.of_departure _ _
  | change faults now refusals =>
    obtain rfl : stage' = stage := hadv
    rw [decisions_of_none rfl]
    refine ⟨fun d hmem => ?_, hd.found, hd.once⟩
    have hk := hd.known d hmem
    exact ⟨hk.next, hk.decided, hk.call⟩

end Decided

end Teller

import Teller.Proofs.Bank.Stage
import Teller.Proofs.Bank.Traffic

/-!
# Orderly traffic

If each kind of call keeps to its rules on its own (`Protocol.Kept`), then it does so in any traffic:
no two calls have a unit of work in common, so a step of one is a step of the others' surroundings.
`Orderly` is the invariant that says so, with the stages of all calls; a step of the traffic advances
the stage of at most one call (`Orderly.step`).
-/

namespace Teller

/-- Kinds of calls, and the rules for each. -/
structure Protocol (κ α ν : Type) where
  act : κ → Act α
  inv : Store → Prop
  effect : κ → ν → Bank → Bank → Prop
  idle : Stage ν → Prop
  ends : κ → Stage ν → α → Prop

namespace Protocol

variable {κ α ν : Type} {P : Protocol κ α ν}

/-- The rules for one call. -/
def rules (P : Protocol κ α ν) (c : κ) : Rules Bank (Stage ν) :=
  Conduct.rules ⟨P.inv, P.effect c, P.idle⟩

structure Kept (P : Protocol κ α ν) : Prop where
  invariant : Store.Invariant P.inv
  follows : ∀ c {b : Bank}, P.inv b.store →
    (P.act c).Follows (P.rules c) (fun g r _ => P.ends c g r) .start b

/-- The stages after something happened, given those before. -/
def Advance (P : Protocol κ α ν) (stage : Int → Stage ν) (e : Happening κ) (stage' : Int → Stage ν) :
    Prop :=
  match e with
  | .arrival n _ => stage' = Function.update stage n .start
  | .move n c b b' =>
    (∀ m, m ≠ n → stage' m = stage m) ∧ Turn (P.effect c) (stage n) b (stage' n) b'
  | .departure n _ =>
    stage' = Function.update stage n ⟨none, (stage n).verdict⟩ ∧ P.idle (stage n)
  | .change => stage' = stage

/-- Every call keeps to its rules from its stage on, and has its units of work for itself. -/
structure Orderly (P : Protocol κ α ν) (stage : Int → Stage ν) (w : Traffic κ α) : Prop where
  inv : P.inv w.bank.store
  follows : ∀ {n f}, w.flights.get? n = some f →
    f.rest.Follows (P.rules f.call) (fun g r _ => P.ends f.call g r) (stage n) w.bank
  /-- The unit that a call has open is one of its units. -/
  unit : ∀ {n f u}, w.flights.get? n = some f → (stage n).unit = some u → u ∈ f.units
  /-- Of its units, only that one may be open. -/
  closed : ∀ {n f u}, w.flights.get? n = some f → u ∈ f.units → (stage n).unit ≠ some u →
    w.bank.store.drafts.get? u = none
  number : ∀ {n f u}, w.flights.get? n = some f → u ∈ f.units → u < w.bank.store.nextDraft
  apart : ∀ {n m f f' u}, n ≠ m → w.flights.get? n = some f → w.flights.get? m = some f' →
    u ∈ f.units → u ∉ f'.units
  next : ∀ {n f}, w.flights.get? n = some f → n < w.next

/-- A verdict stands. -/
theorem Advance.verdict {stage stage' : Int → Stage ν} {e : Happening κ} {w w' : Traffic κ α}
    (hadv : P.Advance stage e stage') (hs : Traffic.Step P.act w e w') {n : Int} (hn : n < w.next) {x : ν}
    (hx : (stage n).verdict = some x) : (stage' n).verdict = some x := by
  cases hs with
  | arrival c =>
    obtain rfl : stage' = Function.update stage w.next .start := hadv
    rw [Function.update_of_ne (Int.ne_of_lt hn), hx]
  | @move k f m b hf hm =>
    by_cases hk : n = k
    · subst hk
      rcases hadv.2.quiet_or_effect with ⟨-, hv⟩ | ⟨y, hnone, -⟩
      · rw [hv, hx]
      · rw [hx] at hnone
        cases hnone
    · rw [hadv.1 n hk, hx]
  | @departure k f hf hw =>
    obtain ⟨rfl, -⟩ := hadv
    by_cases hk : n = k
    · rw [hk, Function.update_self, ← hx, hk]
    · rw [Function.update_of_ne hk, hx]
  | change faults now refusals =>
    obtain rfl : stage' = stage := hadv
    exact hx

namespace Orderly

variable {stage : Int → Stage ν} {w w' : Traffic κ α} {e : Happening κ} {n : Int} {f : Flight κ α}

theorem quiet (P : Protocol κ α ν) (stage : Int → Stage ν) {b : Bank} (hb : P.inv b.store) :
    P.Orderly stage (Traffic.quiet b) where
  inv := hb
  follows h := by cases h
  unit h := by cases h
  closed h := by cases h
  number h := by cases h
  apart _ h := by cases h
  next h := by cases h

/-- A call that is over has ended at its stage. -/
theorem ends (h : P.Orderly stage w) {x : α} (hx : w.reply? n = some x) :
    ∃ f, w.flights.get? n = some f ∧ P.ends f.call (stage n) x := by
  obtain ⟨f, hf, hrest⟩ := Traffic.of_reply?_eq_some hx
  have hfollows := h.follows hf
  rw [hrest] at hfollows
  exact ⟨f, hf, hfollows⟩

/-- Whether calls keep to their rules does not depend on what they do not look at. -/
theorem setting (hP : P.Kept) (h : P.Orderly stage w) (faults : Faults) (now : Time.Instant)
    (refusals : List Bank.Refusal) : P.Orderly stage
      { w with
        bank :=
          { w.bank with
            store := { w.bank.store with faults := faults, now := now }
            refusals := refusals } } := by
  have hm : Store.Move none w.bank.store { w.bank.store with faults := faults, now := now } :=
    .setting faults now
  have hinv := hP.invariant.quiet h.inv hm rfl
  refine ⟨hinv, fun hf => ?_, h.unit, h.closed, h.number, h.apart, h.next⟩
  exact (h.follows hf).others (fun _ _ _ _ => Conduct.others_trans) (fun _ _ _ _ hq _ => hq)
    (Conduct.others_setting hinv faults now rfl)

theorem arrival (hP : P.Kept) (h : P.Orderly stage w) (c : κ) :
    P.Orderly (Function.update stage w.next .start)
      { w with flights := w.flights.put w.next ⟨c, P.act c, []⟩, next := w.next + 1 } := by
  have hget : ∀ {n f}, (w.flights.put w.next ⟨c, P.act c, []⟩).get? n = some f →
      (n = w.next ∧ f = ⟨c, P.act c, []⟩) ∨
        (w.flights.get? n = some f ∧ Function.update stage w.next .start n = stage n) := by
    intro n f hf
    rcases Table.get?_put_eq_some_iff.1 hf with hnew | ⟨hn, hf⟩
    · exact .inl hnew
    · exact .inr ⟨hf, Function.update_of_ne hn _ _⟩
  constructor
  case inv => exact h.inv
  case follows =>
    intro n f hf
    rcases hget hf with ⟨rfl, rfl⟩ | ⟨hf, hs⟩
    · rw [Function.update_self]; exact hP.follows c h.inv
    · rw [hs]; exact h.follows hf
  case unit =>
    intro n f u hf hu
    rcases hget hf with ⟨rfl, rfl⟩ | ⟨hf, hs⟩
    · rw [Function.update_self] at hu; cases hu
    · rw [hs] at hu; exact h.unit hf hu
  case closed =>
    intro n f u hf hu hne
    rcases hget hf with ⟨rfl, rfl⟩ | ⟨hf, hs⟩
    · cases hu
    · rw [hs] at hne; exact h.closed hf hu hne
  case number =>
    intro n f u hf hu
    rcases hget hf with ⟨rfl, rfl⟩ | ⟨hf, hs⟩
    · cases hu
    · exact h.number hf hu
  case apart =>
    intro n m f f' u hnm hf hf' hu hu'
    rcases hget hf with ⟨rfl, rfl⟩ | ⟨hf, -⟩
    · cases hu
    rcases hget hf' with ⟨rfl, rfl⟩ | ⟨hf', -⟩
    · cases hu'
    · exact h.apart hnm hf hf' hu hu'
  case next =>
    intro n f hf
    rcases hget hf with ⟨rfl, rfl⟩ | ⟨hf, -⟩
    · exact Int.lt_succ _
    · exact Int.lt_trans (h.next hf) (Int.lt_succ _)

/-- A step of one call happens around the others. -/
theorem around_turn (hP : P.Kept) (h : P.Orderly stage w) (hf : w.flights.get? n = some f) {b : Bank}
    {g : Stage ν} (hinv : P.inv b.store) (ht : Turn (P.effect f.call) (stage n) w.bank g b) {k : Int}
    {f' : Flight κ α} (hk : k ≠ n) (hf' : w.flights.get? k = some f') :
    Bank.Around P.inv (stage k).unit w.bank b := by
  have hsound := hP.invariant.sound h.inv
  refine ⟨hinv, fun u hu => ?_, ht.move.precedes hsound⟩
  -- the units of the other call are its own, so the step leaves them as they are
  refine ht.move.untouched hsound (fun hu' => ?_) (h.number hf' (h.unit hf' hu))
  exact h.apart hk hf' hf (h.unit hf' hu) (h.unit hf hu')

/-- A call is dropped around the others. -/
theorem around_departure (hP : P.Kept) (h : P.Orderly stage w) (hf : w.flights.get? n = some f) {k : Int}
    {f' : Flight κ α} (hk : k ≠ n) (hf' : w.flights.get? k = some f') :
    Bank.Around P.inv (stage k).unit w.bank
      { w.bank with store := w.bank.store.discardAll f.units } := by
  have hlater : w.bank.store.Precedes (w.bank.store.discardAll f.units) := by
    refine (Store.discardAll_induct (J := fun t => t.Sound ∧ w.bank.store.Precedes t) (fun t u ht => ?_)
      ⟨hP.invariant.sound h.inv, .refl _⟩ f.units).2
    have hm : Store.Move (some u) t (t.discard u) := .discard u
    exact ⟨hm.sound ht.1, ht.2.trans (hm.precedes ht.1)⟩
  refine ⟨Store.discardAll_induct (fun _ u hs => hP.invariant.quiet hs (.discard u) rfl) h.inv f.units,
    fun u hu => .of_book (Store.discardAll_book f.units _) ?_, hlater⟩
  rw [Store.discardAll_get?, if_neg (h.apart hk hf' hf (h.unit hf' hu))]

/-- A step of one call, which the others do not notice. -/
theorem turn (hP : P.Kept) (h : P.Orderly stage w) (hf : w.flights.get? n = some f) {m : Act α}
    {b : Bank} {g : Stage ν} (hinv : P.inv b.store) (ht : Turn (P.effect f.call) (stage n) w.bank g b)
    (hm : m.Follows (P.rules f.call) (fun g r _ => P.ends f.call g r) g b) :
    P.Orderly (Function.update stage n g)
      { w with
        bank := b
        flights := w.flights.put n ⟨f.call, m, f.units ++ b.store.opened w.bank.store.nextDraft⟩ } := by
  have hsound := hP.invariant.sound h.inv
  have hle := ht.move.nextDraft_le
  have hnew : ∀ {u}, u ∈ b.store.opened w.bank.store.nextDraft → w.bank.store.nextDraft ≤ u ∧
      ∃ d, b.store.drafts.get? u = some d := fun hu =>
    ⟨(Store.mem_opened.1 hu).1, Option.ne_none_iff_exists'.1 (Store.mem_opened.1 hu).2⟩
  have hget : ∀ {k f'}, (w.flights.put n ⟨f.call, m, f.units ++ b.store.opened w.bank.store.nextDraft⟩).get? k
      = some f' → (k = n ∧ f' = ⟨f.call, m, f.units ++ b.store.opened w.bank.store.nextDraft⟩) ∨
        (k ≠ n ∧ w.flights.get? k = some f' ∧ Function.update stage n g k = stage k) := by
    intro k f' hf'
    rcases Table.get?_put_eq_some_iff.1 hf' with hnew | ⟨hk, hf'⟩
    · exact .inl hnew
    · exact .inr ⟨hk, hf', Function.update_of_ne hk _ _⟩
  constructor
  case inv => exact hinv
  case follows =>
    intro k f' hf'
    rcases hget hf' with ⟨rfl, rfl⟩ | ⟨hk, hf', hs⟩
    · rw [Function.update_self]; exact hm
    · rw [hs]
      exact (h.follows hf').others (fun _ _ _ _ => Conduct.others_trans) (fun _ _ _ _ hq _ => hq)
        (h.around_turn hP hf hinv ht hk hf')
  case unit =>
    intro k f' u hf' hu
    rcases hget hf' with ⟨rfl, rfl⟩ | ⟨hk, hf', hs⟩
    · rw [Function.update_self] at hu
      rcases ht.unit_eq hu with hu | ⟨rfl, hopen⟩
      · exact List.mem_append_left _ (h.unit hf hu)
      · exact List.mem_append_right _ (Store.mem_opened.2 ⟨Int.le_refl _, hopen⟩)
    · rw [hs] at hu; exact h.unit hf' hu
  case closed =>
    intro k f' u hf' hu hne
    by_contra hopen
    rcases hget hf' with ⟨rfl, rfl⟩ | ⟨hk, hf', hs⟩
    · rw [Function.update_self] at hne
      rcases ht.opened hopen with hopen' | ⟨-, hu'⟩
      · rcases List.mem_append.1 hu with hu | hu
        · by_cases hsu : (stage k).unit = some u
          · exact (ht.closed hsu).elim hne hopen
          · exact hopen' (h.closed hf hu hsu)
        · exact hopen' (hsound.get?_eq_none_of_le (hnew hu).1)
      · exact hne hu'
    · rw [hs] at hne
      rcases ht.opened hopen with hopen' | ⟨rfl, -⟩
      · exact hopen' (h.closed hf' hu hne)
      · exact absurd (h.number hf' hu) (Int.lt_irrefl _)
  case number =>
    intro k f' u hf' hu
    rcases hget hf' with ⟨rfl, rfl⟩ | ⟨hk, hf', hs⟩
    · rcases List.mem_append.1 hu with hu | hu
      · exact Int.lt_of_lt_of_le (h.number hf hu) hle
      · obtain ⟨-, d, hd⟩ := hnew hu
        exact (hP.invariant.sound hinv).number hd
    · exact Int.lt_of_lt_of_le (h.number hf' hu) hle
  case apart =>
    intro k j f₁ f₂ u hkj hf₁ hf₂ hu hu'
    -- the new unit has a number that no call had before
    have hold : ∀ {i f'}, w.flights.get? i = some f' → u ∈ f'.units →
        u ∉ b.store.opened w.bank.store.nextDraft := fun hf' hu hu' =>
      absurd (h.number hf' hu) (Int.not_lt.2 (hnew hu').1)
    rcases hget hf₁ with ⟨rfl, rfl⟩ | ⟨hk, hk₁, -⟩ <;> rcases hget hf₂ with ⟨rfl, rfl⟩ | ⟨hj, hj₂, -⟩
    · exact absurd rfl hkj
    · rcases List.mem_append.1 hu with hu | hu
      · exact h.apart hkj hf hj₂ hu hu'
      · exact hold hj₂ hu' hu
    · rcases List.mem_append.1 hu' with hu' | hu'
      · exact h.apart hkj hk₁ hf hu hu'
      · exact hold hk₁ hu hu'
    · exact h.apart hkj hk₁ hj₂ hu hu'
  case next =>
    intro k f' hf'
    rcases hget hf' with ⟨rfl, rfl⟩ | ⟨-, hf', -⟩
    · exact h.next hf
    · exact h.next hf'

/-- A call is dropped, and its units of work with it. -/
theorem departure (hP : P.Kept) (h : P.Orderly stage w) (hf : w.flights.get? n = some f) :
    P.Orderly (Function.update stage n ⟨none, (stage n).verdict⟩)
      { w with
        bank := { w.bank with store := w.bank.store.discardAll f.units }
        flights := w.flights.erase n } := by
  have hinv : P.inv (w.bank.store.discardAll f.units) :=
    Store.discardAll_induct (fun _ u hs => hP.invariant.quiet hs (.discard u) rfl) h.inv f.units
  have hn : (w.bank.store.discardAll f.units).nextDraft = w.bank.store.nextDraft :=
    Store.discardAll_induct (J := fun t => t.nextDraft = w.bank.store.nextDraft) (fun _ _ ht => ht) rfl f.units
  have hdraft := Store.discardAll_get? f.units w.bank.store
  have hget : ∀ {k f'}, (w.flights.erase n).get? k = some f' →
      k ≠ n ∧ w.flights.get? k = some f' ∧
        Function.update stage n ⟨none, (stage n).verdict⟩ k = stage k := by
    intro k f' hf'
    obtain ⟨hk, hf'⟩ := Table.get?_erase_eq_some_iff.1 hf'
    exact ⟨hk, hf', Function.update_of_ne hk _ _⟩
  constructor
  case inv => exact hinv
  case follows =>
    intro k f' hf'
    obtain ⟨hk, hf', hs⟩ := hget hf'
    rw [hs]
    exact (h.follows hf').others (fun _ _ _ _ => Conduct.others_trans) (fun _ _ _ _ hq _ => hq)
      (h.around_departure hP hf hk hf')
  case unit =>
    intro k f' u hf' hu'
    obtain ⟨hk, hf', hs⟩ := hget hf'
    rw [hs] at hu'
    exact h.unit hf' hu'
  case closed =>
    intro k f' u hf' hu' hne
    obtain ⟨hk, hf', hs⟩ := hget hf'
    rw [hs] at hne
    have hclosed := h.closed hf' hu' hne
    show (w.bank.store.discardAll f.units).drafts.get? u = none
    rw [hdraft, hclosed, ite_self]
  case number => exact fun hf' hu' => hn ▸ h.number (hget hf').2.1 hu'
  case apart => exact fun hkj hf₁ hf₂ => h.apart hkj (hget hf₁).2.1 (hget hf₂).2.1
  case next => exact fun hf' => h.next (hget hf').2.1

theorem step (hP : P.Kept) (h : P.Orderly stage w) (hs : Traffic.Step P.act w e w') :
    ∃ stage', P.Orderly stage' w' ∧ P.Advance stage e stage' := by
  cases hs with
  | arrival c => exact ⟨_, h.arrival hP c, rfl⟩
  | @move n f m b hf hm =>
    obtain ⟨g, hinv, hturn, hfol⟩ : ∃ g, P.inv b.store ∧ Turn (P.effect f.call) (stage n) w.bank g b ∧
        m.Follows (P.rules f.call) (fun g r _ => P.ends f.call g r) g b := by
      rcases (h.follows hf).step (Conduct.others_refl h.inv) hm with ⟨g, ⟨hinv, hturn⟩, hfol⟩ | ⟨rfl, hfol⟩
      · exact ⟨g, hinv, hturn, hfol⟩
      · exact ⟨stage n, h.inv, .refl _ _, hfol⟩
    refine ⟨_, h.turn hP hf hinv hturn hfol, fun k hk => Function.update_of_ne hk _ _, ?_⟩
    rw [Function.update_self]
    exact hturn
  | @departure n f hf hw =>
    refine ⟨_, h.departure hP hf, rfl, ?_⟩
    have hfol := h.follows hf
    cases hrest : f.rest with
    | wait span ready change next late => rw [hrest] at hfol; exact hfol.1
    | done r => rw [hrest] at hw; exact hw.elim
    | act change next => rw [hrest] at hw; exact hw.elim
  | change faults now refusals =>
    exact ⟨stage, h.setting hP faults now refusals, rfl⟩

end Orderly

end Protocol

end Teller

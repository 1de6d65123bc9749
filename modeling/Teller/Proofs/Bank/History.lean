import Teller.Proofs.Bank.Orderly

/-!
# What a history tells

The stages of the calls are not part of the traffic, but its history tells what matters about them
(`Protocol.Recorded`): the steps of a call are quiet, all but the one that gave the verdict on it, and
a unit of work that has been opened since the start belongs to a call that is still under way.
-/

namespace Teller

variable {κ α ν : Type}

/-- The steps of a call, latest first: the bank before and after each of them. -/
def Traffic.steps (n : Int) : List (Happening κ) → List (Bank × Bank)
  | [] => []
  | .move m _ b b' :: h => if m = n then (b, b') :: steps n h else steps n h
  | .arrival _ _ :: h => steps n h
  | .departure _ _ :: h => steps n h
  | .change :: h => steps n h

/-- The books that a bank went through, latest first. -/
def Traffic.books (b : Bank) : List (Happening κ) → List Book
  | [] => [b.store.book]
  | .move _ _ _ b' :: h => b'.store.book :: books b h
  | .arrival _ _ :: h => books b h
  | .departure _ _ :: h => books b h
  | .change :: h => books b h

/-- The steps come to a verdict, or to nothing so far. -/
def Amount (effect : ν → Bank → Bank → Prop) (l : List (Bank × Bank)) : Option ν → Prop
  | none => ∀ s ∈ l, s.1.Quiet s.2
  | some x => ∃ later b b' earlier, l = later ++ (b, b') :: earlier ∧ effect x b b' ∧
    ∀ s ∈ later ++ earlier, s.1.Quiet s.2

/-- The history of a traffic that started at a bank, seen from the stages of its calls. -/
structure Protocol.Recorded (P : Protocol κ α ν) (b₀ : Bank) (h : List (Happening κ))
    (stage : Int → Stage ν) (w : Traffic κ α) : Prop where
  arrival : ∀ {n c}, .arrival n c ∈ h → n < w.next ∧ ∀ f, w.flights.get? n = some f → f.call = c
  flight : ∀ {n f}, w.flights.get? n = some f →
    Amount (P.effect f.call) (Traffic.steps n h) (stage n).verdict
  departure : ∀ {n c}, .departure n c ∈ h → n < w.next ∧ w.flights.get? n = none ∧
    ∃ g, P.idle g ∧ Amount (P.effect c) (Traffic.steps n h) g.verdict
  future : ∀ {n}, w.next ≤ n → Traffic.steps n h = []
  opened : ∀ {u}, w.bank.store.drafts.get? u ≠ none → b₀.store.drafts.get? u ≠ none ∨
    ∃ n f, w.flights.get? n = some f ∧ (stage n).unit = some u

theorem Amount.turn {effect : ν → Bank → Bank → Prop} {l : List (Bank × Bank)} {g g' : Stage ν}
    {b b' : Bank} (h : Amount effect l g.verdict) (ht : Turn effect g b g' b') :
    Amount effect ((b, b') :: l) g'.verdict := by
  rcases ht.quiet_or_effect with ⟨hq, hv⟩ | ⟨x, hnone, hx, he⟩
  · rw [hv]
    cases hg : g.verdict with
    | none =>
      rw [hg] at h
      intro s hs
      rcases List.mem_cons.1 hs with rfl | hs
      · exact hq
      · exact h s hs
    | some x =>
      rw [hg] at h
      obtain ⟨later, c, c', earlier, rfl, he, hrest⟩ := h
      refine ⟨(b, b') :: later, c, c', earlier, rfl, he, fun s hs => ?_⟩
      rcases List.mem_cons.1 hs with rfl | hs
      · exact hq
      · exact hrest s hs
  · rw [hnone] at h
    rw [hx]
    exact ⟨[], b, b', l, rfl, he, h⟩

namespace Protocol.Recorded

variable {P : Protocol κ α ν} {b₀ b : Bank} {h : List (Happening κ)} {stage stage' : Int → Stage ν}
  {w w' : Traffic κ α} {e : Happening κ} {n : Int} {f : Flight κ α}

theorem start (P : Protocol κ α ν) (b : Bank) (stage : Int → Stage ν) :
    P.Recorded b [] stage (Traffic.quiet b) where
  arrival h := by cases h
  flight h := by cases h
  departure h := by cases h
  future _ := rfl
  opened h := .inl h

theorem of_arrival (hw : P.Orderly stage w) (hr : P.Recorded b₀ h stage w) (c : κ) :
    P.Recorded b₀ (.arrival w.next c :: h) (Function.update stage w.next .start)
      { w with flights := w.flights.put w.next ⟨c, P.act c, []⟩, next := w.next + 1 } := by
  have hlt : ∀ {n}, n < w.next → n < w.next + 1 := fun hn => by omega
  have hget : ∀ {n}, n < w.next →
      (w.flights.put w.next ⟨c, P.act c, []⟩).get? n = w.flights.get? n ∧
        Function.update stage w.next .start n = stage n := fun hn =>
    ⟨Table.get?_put_of_ne (Int.ne_of_lt hn) _, Function.update_of_ne (Int.ne_of_lt hn) _ _⟩
  constructor
  case arrival =>
    intro n c' hn
    rcases List.mem_cons.1 hn with heq | hn
    · cases heq
      refine ⟨Int.lt_succ _, fun f hf => ?_⟩
      rw [Table.get?_put_self] at hf
      cases hf
      rfl
    · obtain ⟨hn, hcall⟩ := hr.arrival hn
      exact ⟨hlt hn, fun f hf => hcall f ((hget hn).1 ▸ hf)⟩
  case flight =>
    intro n f hf
    rcases Table.get?_put_eq_some_iff.1 hf with ⟨rfl, rfl⟩ | ⟨hn, hf⟩
    · rw [Function.update_self]
      intro s hs
      rw [Traffic.steps, hr.future (Int.le_refl _)] at hs
      cases hs
    · rw [Function.update_of_ne hn]
      exact hr.flight hf
  case departure =>
    intro n c' hn
    rcases List.mem_cons.1 hn with heq | hn
    · cases heq
    · obtain ⟨hn, hgone, hg⟩ := hr.departure hn
      exact ⟨hlt hn, (hget hn).1.trans hgone, hg⟩
  case future => exact fun hn => hr.future (Int.le_of_lt (Int.lt_of_lt_of_le (Int.lt_succ _) hn))
  case opened =>
    intro u hu
    rcases hr.opened hu with hu | ⟨n, f, hf, hfu⟩
    · exact .inl hu
    · have hn := hget (hw.next hf)
      exact .inr ⟨n, f, hn.1.trans hf, by rw [hn.2]; exact hfu⟩

theorem of_move (hw : P.Orderly stage w) (hr : P.Recorded b₀ h stage w) (hf : w.flights.get? n = some f)
    {m : Act α} {units : List Int} (hstage : ∀ k, k ≠ n → stage' k = stage k)
    (ht : Turn (P.effect f.call) (stage n) w.bank (stage' n) b) :
    P.Recorded b₀ (.move n f.call w.bank b :: h) stage'
      { w with bank := b, flights := w.flights.put n ⟨f.call, m, units⟩ } := by
  have hsteps : ∀ {k}, k ≠ n → Traffic.steps k (.move n f.call w.bank b :: h) = Traffic.steps k h :=
    fun hk => if_neg hk.symm
  constructor
  case arrival =>
    intro k c hk
    rcases List.mem_cons.1 hk with heq | hk
    · cases heq
    · obtain ⟨hlt, hcall⟩ := hr.arrival hk
      refine ⟨hlt, fun f' hf' => ?_⟩
      rcases Table.get?_put_eq_some_iff.1 hf' with ⟨rfl, rfl⟩ | ⟨-, hf'⟩
      · exact hcall f hf
      · exact hcall f' hf'
  case flight =>
    intro k f' hf'
    rcases Table.get?_put_eq_some_iff.1 hf' with ⟨rfl, rfl⟩ | ⟨hkn, hf'⟩
    · rw [Traffic.steps, if_pos rfl]
      exact (hr.flight hf).turn ht
    · rw [hsteps hkn, hstage k hkn]
      exact hr.flight hf'
  case departure =>
    intro k c hk
    rcases List.mem_cons.1 hk with heq | hk
    · cases heq
    · obtain ⟨hlt, hgone, hg⟩ := hr.departure hk
      have hkn : k ≠ n := by
        rintro rfl
        rw [hgone] at hf
        cases hf
      rw [hsteps hkn]
      exact ⟨hlt, (Table.get?_put_of_ne hkn _).trans hgone, hg⟩
  case future =>
    intro k hk
    have hkn : k ≠ n := by
      rintro rfl
      exact absurd (hw.next hf) (Int.not_lt.2 hk)
    rw [hsteps hkn]
    exact hr.future hk
  case opened =>
    intro u hu
    -- a unit that is open now was open before, or the call has just opened it
    have hself : (stage' n).unit = some u → b₀.store.drafts.get? u ≠ none ∨ ∃ k f',
        (w.flights.put n ⟨f.call, m, units⟩).get? k = some f' ∧ (stage' k).unit = some u :=
      fun hu => .inr ⟨n, _, Table.get?_put_self _ _ _, hu⟩
    rcases ht.opened hu with hold | ⟨-, hnew⟩
    · rcases hr.opened hold with hu' | ⟨k, f', hf', hku⟩
      · exact .inl hu'
      by_cases hkn : k = n
      · subst hkn
        rcases ht.closed hku with hnew | hclosed
        · exact hself hnew
        · exact absurd hclosed hu
      · refine .inr ⟨k, f', (Table.get?_put_of_ne hkn _).trans hf', ?_⟩
        rw [hstage k hkn, hku]
    · exact hself hnew

theorem of_departure (hw : P.Orderly stage w) (hr : P.Recorded b₀ h stage w)
    (hf : w.flights.get? n = some f) (hidle : P.idle (stage n)) :
    P.Recorded b₀ (.departure n f.call :: h) (Function.update stage n ⟨none, (stage n).verdict⟩)
      { w with
        bank := { w.bank with store := w.bank.store.discardAll f.units }
        flights := w.flights.erase n } := by
  constructor
  case arrival =>
    intro k c hk
    rcases List.mem_cons.1 hk with heq | hk
    · cases heq
    · obtain ⟨hlt, hcall⟩ := hr.arrival hk
      exact ⟨hlt, fun f' hf' => hcall f' (Table.get?_erase_eq_some_iff.1 hf').2⟩
  case flight =>
    intro k f' hf'
    obtain ⟨hkn, hf'⟩ := Table.get?_erase_eq_some_iff.1 hf'
    rw [Function.update_of_ne hkn]
    exact hr.flight hf'
  case departure =>
    intro k c hk
    rcases List.mem_cons.1 hk with heq | hk
    · cases heq
      exact ⟨hw.next hf, Table.get?_erase_self _ _, stage n, hidle, hr.flight hf⟩
    · obtain ⟨hlt, hgone, hg⟩ := hr.departure hk
      refine ⟨hlt, ?_, hg⟩
      show (w.flights.erase n).get? k = none
      rw [Table.get?_erase, hgone, ite_self]
  case future => exact hr.future
  case opened =>
    intro u hu
    have hopen : u ∉ f.units ∧ w.bank.store.drafts.get? u ≠ none := by
      have hget := Store.discardAll_get? f.units w.bank.store u
      by_cases hmem : u ∈ f.units
      · exact absurd (hget.trans (if_pos hmem)) hu
      · exact ⟨hmem, fun hnone => hu (hget.trans ((if_neg hmem).trans hnone))⟩
    rcases hr.opened hopen.2 with hu' | ⟨k, f', hf', hku⟩
    · exact .inl hu'
    have hkn : k ≠ n := by
      rintro rfl
      cases hf.symm.trans hf'
      exact hopen.1 (hw.unit hf hku)
    refine .inr ⟨k, f', (Table.get?_erase_of_ne hkn).trans hf', ?_⟩
    rw [Function.update_of_ne hkn, hku]

theorem step (hw : P.Orderly stage w) (hr : P.Recorded b₀ h stage w) (hs : Traffic.Step P.act w e w')
    (hadv : P.Advance stage e stage') : P.Recorded b₀ (e :: h) stage' w' := by
  cases hs with
  | arrival c =>
    obtain rfl : stage' = Function.update stage w.next .start := hadv
    exact hr.of_arrival hw c
  | move hf hm => exact hr.of_move hw hf hadv.1 hadv.2
  | departure hf hwait =>
    obtain ⟨rfl, hidle⟩ := hadv
    exact hr.of_departure hw hf hidle
  | change faults now refusals =>
    obtain rfl : stage' = stage := hadv
    refine ⟨fun hk => ?_, hr.flight, fun hk => ?_, hr.future, hr.opened⟩
    · exact hr.arrival ((List.mem_cons.1 hk).resolve_left (by rintro ⟨⟩))
    · exact hr.departure ((List.mem_cons.1 hk).resolve_left (by rintro ⟨⟩))

end Protocol.Recorded

/-- A run of calls that keep to their rules is orderly, and its history tells so. -/
theorem Traffic.Run.recorded {P : Protocol κ α ν} (hP : P.Kept) {b : Bank} (hb : P.inv b.store)
    {h : List (Happening κ)} {w : Traffic κ α} (hr : Traffic.Run P.act b h w) :
    ∃ stage, P.Orderly stage w ∧ P.Recorded b h stage w := by
  induction hr with
  | start => exact ⟨fun _ => .start, .quiet P _ hb, .start P b _⟩
  | step hr hs ih =>
    obtain ⟨stage, hw, hrec⟩ := ih
    obtain ⟨stage', hw', hadv⟩ := hw.step hP hs
    exact ⟨stage', hw', hrec.step hw hs hadv⟩

/-- A step of a call is one that its rules allow. -/
theorem Traffic.Run.turn {P : Protocol κ α ν} (hP : P.Kept) {b : Bank} (hb : P.inv b.store)
    {h : List (Happening κ)} {w : Traffic κ α} (hr : Traffic.Run P.act b h w) {n : Int} {c : κ}
    {s s' : Bank} (hm : .move n c s s' ∈ h) :
    ∃ g g', P.inv s.store ∧ Turn (P.effect c) g s g' s' := by
  induction hr with
  | start => cases hm
  | step hr hs ih =>
    rcases List.mem_cons.1 hm with rfl | hm
    · obtain ⟨stage, hw, -⟩ := hr.recorded hP hb
      obtain ⟨stage', -, hadv⟩ := hw.step hP hs
      cases hs
      exact ⟨stage n, stage' n, hw.inv, hadv.2⟩
    · exact ih hm

theorem Traffic.mem_of_steps {n : Int} {h : List (Happening κ)} {x : Bank × Bank}
    (hx : x ∈ Traffic.steps n h) : ∃ c, .move n c x.1 x.2 ∈ h := by
  induction h with
  | nil => cases hx
  | cons e h ih =>
    have hold (hx : x ∈ Traffic.steps n h) : ∃ c, .move n c x.1 x.2 ∈ e :: h := by
      obtain ⟨c, hc⟩ := ih hx
      exact ⟨c, List.mem_cons_of_mem e hc⟩
    cases e with
    | move m c b b' =>
      unfold Traffic.steps at hx
      split at hx
      · rename_i hm
        subst hm
        rcases List.mem_cons.1 hx with rfl | hx
        · exact ⟨c, List.mem_cons_self⟩
        · exact hold hx
      · exact hold hx
    | _ => exact hold hx

/-- A call that has come in is there, unless it was dropped. -/
theorem Traffic.Run.present {act : κ → Act α} {b : Bank} {h : List (Happening κ)} {w : Traffic κ α}
    (hr : Traffic.Run act b h w) {n : Int} {c : κ} (ha : .arrival n c ∈ h) :
    (∃ f, w.flights.get? n = some f) ∨ ∃ c', .departure n c' ∈ h := by
  induction hr with
  | start => cases ha
  | @step h e w w' hr hs ih =>
    have hput : ∀ {k : Int} {f : Flight κ α}, (∃ f, w.flights.get? n = some f) ∨ n = k →
        ∃ f', (w.flights.put k f).get? n = some f' := by
      intro k f hn
      by_cases hk : n = k
      · exact ⟨f, by rw [hk, Table.get?_put_self]⟩
      · rw [Table.get?_put_of_ne hk]
        exact hn.resolve_right hk
    cases hs with
    | arrival c' =>
      rcases List.mem_cons.1 ha with heq | ha
      · cases heq
        exact .inl (hput (.inr rfl))
      · exact (ih ha).imp (fun hf => hput (.inl hf)) fun ⟨c', hc'⟩ => ⟨c', List.mem_cons_of_mem _ hc'⟩
    | move hf hm =>
      have ha := (List.mem_cons.1 ha).resolve_left (by rintro ⟨⟩)
      exact (ih ha).imp (fun hf => hput (.inl hf)) fun ⟨c', hc'⟩ => ⟨c', List.mem_cons_of_mem _ hc'⟩
    | @departure k f hf hw =>
      have ha := (List.mem_cons.1 ha).resolve_left (by rintro ⟨⟩)
      by_cases hk : n = k
      · exact .inr ⟨f.call, hk ▸ List.mem_cons_self⟩
      · refine (ih ha).imp (fun hf => ?_) fun ⟨c', hc'⟩ => ⟨c', List.mem_cons_of_mem _ hc'⟩
        exact (Table.get?_erase_of_ne hk).symm ▸ hf
    | change =>
      have ha := (List.mem_cons.1 ha).resolve_left (by rintro ⟨⟩)
      exact (ih ha).imp_right fun ⟨c', hc'⟩ => ⟨c', List.mem_cons_of_mem _ hc'⟩

/-! ### What stays so -/

/-- Every step of a call keeps a property of the store. -/
structure Protocol.Keeps (P : Protocol κ α ν) (J : Store → Prop) : Prop where
  quiet : ∀ {u s s'}, P.inv s → Store.Move u s s' → s'.book = s.book → J s → J s'
  effect : ∀ {c x u} {b b' : Bank}, P.inv b.store → Store.Move u b.store b'.store → P.effect c x b b' →
    J b.store → J b'.store

namespace Protocol.Keeps

variable {P : Protocol κ α ν} {J : Store → Prop} {stage stage' : Int → Stage ν} {b : Bank}
  {h : List (Happening κ)} {w w' : Traffic κ α} {e : Happening κ}

theorem step (hJ : P.Keeps J) (hP : P.Kept) (hw : P.Orderly stage w) (hs : Traffic.Step P.act w e w')
    (hadv : P.Advance stage e stage') (hj : J w.bank.store) : J w'.bank.store := by
  cases hs with
  | arrival c => exact hj
  | move hf hm =>
    have hmove := hadv.2.move
    rcases hadv.2.quiet_or_effect with ⟨hq, -⟩ | ⟨x, -, -, hx⟩
    · exact hJ.quiet hw.inv hmove hq.book hj
    · exact hJ.effect hw.inv hmove hx hj
  | @departure n f hf hwait =>
    refine (Store.discardAll_induct (J := fun s => P.inv s ∧ J s) (fun s u hs => ?_) ⟨hw.inv, hj⟩ f.units).2
    have hm : Store.Move (some u) s (s.discard u) := .discard u
    exact ⟨hP.invariant.quiet hs.1 hm rfl, hJ.quiet hs.1 hm rfl hs.2⟩
  | change faults now refusals =>
    have hm : Store.Move none w.bank.store _ := .setting faults now
    exact hJ.quiet hw.inv hm rfl hj

theorem advance (hJ : P.Keeps J) (hP : P.Kept) (hb : P.inv b.store) (hr : Traffic.Run P.act b h w)
    (hs : Traffic.Step P.act w e w') (hj : J w.bank.store) : J w'.bank.store := by
  obtain ⟨stage, hw, -⟩ := hr.recorded hP hb
  obtain ⟨stage', -, hadv⟩ := hw.step hP hs
  exact hJ.step hP hw hs hadv hj

/-- What was so in the beginning is so in the end. -/
theorem all (hJ : P.Keeps J) (hP : P.Kept) (hb : P.inv b.store) (hr : Traffic.Run P.act b h w)
    (hj : J b.store) : J w.bank.store := by
  induction hr with
  | start => exact hj
  | step hr hs ih => exact hJ.advance hP hb hr hs ih

/-- What was so after a step of a call is so in the end. -/
theorem run (hJ : P.Keeps J) (hP : P.Kept) (hb : P.inv b.store) (hr : Traffic.Run P.act b h w) {n : Int}
    {c : κ} {s s' : Bank} (hm : .move n c s s' ∈ h) (hj : J s'.store) : J w.bank.store := by
  induction hr with
  | start => cases hm
  | step hr hs ih =>
    rcases List.mem_cons.1 hm with rfl | hm
    · cases hs
      exact hj
    · exact hJ.advance hP hb hr hs (ih hm)

/-- What was so of a book is so in the end. -/
theorem books {J : Book → Prop} (hJ : P.Keeps fun s => J s.book) (hP : P.Kept) (hb : P.inv b.store)
    (hr : Traffic.Run P.act b h w) {k : Book} (hk : k ∈ Traffic.books b h) (hj : J k) :
    J w.bank.store.book := by
  induction hr with
  | start =>
    obtain rfl := List.mem_singleton.1 hk
    exact hj
  | step hr hs ih =>
    have hold (hk : k ∈ Traffic.books b _) := hJ.advance hP hb hr hs (ih hk)
    cases hs with
    | move hf hm =>
      rcases List.mem_cons.1 hk with rfl | hk
      · exact hj
      · exact hold hk
    | _ => exact hold hk

end Protocol.Keeps

end Teller

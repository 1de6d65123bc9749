import Teller.Proofs.Bank.Primitive

/-!
# Units of work on the floor

Any number of units of work are open at a bank, and whoever has one open makes calls in it, one at a
time, until it is committed, rolled back or dropped; accounts may be removed in between. The steps of
the calls interleave in any order. What such a run does to the store is a sequence of deeds
(`Floor.Run.induct`): each of them is on behalf of one unit of work, and the history tells which
primitive was answered by it.
-/

namespace Teller

/-- A bank and the calls that are under way, by number, each with what is left of it. -/
structure Floor where
  bank : Bank
  calls : Table (Primitive × Act Answer)
  /-- The number of the next call. -/
  next : Int

namespace Floor

def quiet (b : Bank) : Floor :=
  ⟨b, .empty, 0⟩

/-- The unit of work is open, and no call in it is under way. -/
def Ready (w : Floor) (u : Int) : Prop :=
  (∃ d, w.bank.store.drafts.get? u = some d) ∧
    ∀ n p m, w.calls.get? n = some (p, m) → p.unit? ≠ some u

/-- One step, and the primitive that is answered by it, if there is one. -/
inductive Step : Floor → List Answered → Floor → Prop
  | call {w : Floor} (p : Primitive) (hp : ∀ u, p.unit? = some u → w.Ready u) :
    Step w [] { w with calls := w.calls.put w.next (p, p.act), next := w.next + 1 }
  | move {w : Floor} {n : Int} {p : Primitive} {m m' : Act Answer} {b : Bank}
    (hc : w.calls.get? n = some (p, m)) (hm : Timed.Step m w.bank m' b) (hx : ∀ x, m' ≠ .done x) :
    Step w [] { w with bank := b, calls := w.calls.put n (p, m') }
  | answer {w : Floor} {n : Int} {p : Primitive} {m : Act Answer} {x : Answer} {b : Bank}
    (hc : w.calls.get? n = some (p, m)) (hm : Timed.Step m w.bank (.done x) b) :
    Step w [⟨p, x, w.bank.store⟩] { w with bank := b, calls := w.calls.erase n }
  /-- A call is dropped while it waits. -/
  | cancel {w : Floor} {n : Int} {p : Primitive} {m : Act Answer} (hc : w.calls.get? n = some (p, m))
    (hw : m.Waits) :
    Step w []
      { w with
        bank := { w.bank with store := p.taken?.elim w.bank.store w.bank.store.discard }
        calls := w.calls.erase n }
  /-- A unit of work is dropped. -/
  | drop {w : Floor} {u : Int} (hu : w.Ready u) :
    Step w [] { w with bank := { w.bank with store := w.bank.store.discard u } }
  | change {w : Floor} (faults : Faults) (now : Time.Instant) (refusals : List Bank.Refusal) :
    Step w []
      { w with
        bank :=
          { w.bank with
            store := { w.bank.store with faults := faults, now := now }
            refusals := refusals } }

/-- Any number of steps from a bank without calls, with what has been answered, latest first. -/
inductive Run (b : Bank) : List Answered → Floor → Prop
  | start : Run b [] (quiet b)
  | step {h l : List Answered} {w w' : Floor} (hr : Run b h w) (hs : Step w l w') : Run b (l ++ h) w'

/-- Any number of steps from any floor on. -/
inductive Steps : Floor → List Answered → Floor → Prop
  | refl {w : Floor} : Steps w [] w
  | tail {w w' w'' : Floor} {l l' : List Answered} (h : Steps w l w') (hs : Step w' l' w'') :
    Steps w (l' ++ l) w''

/-- Every call keeps to its rules, and no two calls are in one unit of work. -/
structure Orderly (w : Floor) : Prop where
  sound : w.bank.store.Sound
  follows : ∀ {n p m}, w.calls.get? n = some (p, m) →
    m.Follows p.rules (fun g x _ => Primitive.Told g x) none w.bank
  apart : ∀ {n n' p p' m m' u}, n ≠ n' → w.calls.get? n = some (p, m) → w.calls.get? n' = some (p', m') →
    p.unit? = some u → p'.unit? ≠ some u
  number : ∀ {n p m u}, w.calls.get? n = some (p, m) → p.unit? = some u → u < w.bank.store.nextDraft
  next : ∀ {n c}, w.calls.get? n = some c → n < w.next

namespace Orderly

variable {w w' : Floor} {b : Bank} {n : Int} {p : Primitive} {m : Act Answer} {u : Option Int}
  {l : List Answered}

theorem quiet (hb : b.store.Sound) : (quiet b).Orderly where
  sound := hb
  follows h := by cases h
  apart _ h := by cases h
  number h := by cases h
  next h := by cases h

theorem others (h : w.Orderly) (hm : Store.Move u w.bank.store b.store)
    (hc : w.calls.get? n = some (p, m)) (hu : ∀ v, p.unit? = some v → u ≠ some v) :
    m.Follows p.rules (fun g x _ => Primitive.Told g x) none b := by
  refine (h.follows hc).others (fun _ _ _ _ => Primitive.others_trans) (fun _ _ _ _ hx _ => hx) ?_
  exact ⟨hm.sound h.sound, fun v hv => hm.untouched h.sound (hu v hv) (h.number hc hv)⟩

/-- After a step in a unit of work, the calls are those that are not in it, and perhaps the call that
took the step. -/
theorem of_move (h : w.Orderly) (hm : Store.Move u w.bank.store b.store)
    {calls : Table (Primitive × Act Answer)}
    (hcalls : ∀ {n p m}, calls.get? n = some (p, m) →
      w.calls.get? n = some (p, m) ∧ (∀ v, p.unit? = some v → u ≠ some v) ∨
        (∃ m₀, w.calls.get? n = some (p, m₀)) ∧
          m.Follows p.rules (fun g x _ => Primitive.Told g x) none b) :
    Orderly { w with bank := b, calls := calls } := by
  have hold : ∀ {n p m}, calls.get? n = some (p, m) → ∃ m₀, w.calls.get? n = some (p, m₀) := by
    intro n p m hc
    rcases hcalls hc with ⟨hc, -⟩ | ⟨hc, -⟩
    · exact ⟨m, hc⟩
    · exact hc
  constructor
  case sound => exact hm.sound h.sound
  case follows =>
    intro n p m hc
    rcases hcalls hc with ⟨hc, hu⟩ | ⟨-, hfollows⟩
    · exact h.others hm hc hu
    · exact hfollows
  case apart =>
    intro n n' p p' m m' v hn hc hc' hv
    obtain ⟨m₀, hc⟩ := hold hc
    obtain ⟨m₀', hc'⟩ := hold hc'
    exact h.apart hn hc hc' hv
  case number =>
    intro n p m v hc hv
    obtain ⟨m₀, hc⟩ := hold hc
    exact Int.lt_of_lt_of_le (h.number hc hv) hm.nextDraft_le
  case next =>
    intro n c hc
    obtain ⟨m₀, hc⟩ := hold (p := c.1) (m := c.2) hc
    exact h.next hc

theorem erase (h : w.Orderly) (hc : w.calls.get? n = some (p, m))
    (hm : Store.Move p.unit? w.bank.store b.store) :
    Orderly { w with bank := b, calls := w.calls.erase n } := by
  refine h.of_move hm fun hk => .inl ?_
  obtain ⟨hkn, hk⟩ := Table.get?_erase_eq_some_iff.1 hk
  exact ⟨hk, fun v hv hpv => h.apart hkn hk hc hv hpv⟩

/-- A call takes a step and goes on. -/
theorem put (h : w.Orderly) (hc : w.calls.get? n = some (p, m)) (hm : Store.Move p.unit? w.bank.store b.store)
    {m' : Act Answer} (hm' : m'.Follows p.rules (fun g x _ => Primitive.Told g x) none b) :
    Orderly { w with bank := b, calls := w.calls.put n (p, m') } := by
  refine h.of_move hm fun {k q l} hk => ?_
  rcases Table.get?_put_eq_some_iff.1 hk with ⟨rfl, heq⟩ | ⟨hkn, hk⟩
  · cases heq
    exact .inr ⟨⟨m, hc⟩, hm'⟩
  · exact .inl ⟨hk, fun v hv hpv => h.apart hkn hk hc hv hpv⟩

theorem discard (h : w.Orderly) {u : Int} (hu : w.Ready u) :
    Orderly { w with bank := { w.bank with store := w.bank.store.discard u } } := by
  refine h.of_move (.discard u) fun {n p m} hc => .inl ⟨hc, fun v hv huv => ?_⟩
  exact hu.2 n p m hc (hv.trans huv.symm)

theorem call (h : w.Orderly) (hp : ∀ u, p.unit? = some u → w.Ready u) :
    Orderly { w with calls := w.calls.put w.next (p, p.act), next := w.next + 1 } := by
  have hget : ∀ {k q m}, (w.calls.put w.next (p, p.act)).get? k = some (q, m) →
      (k = w.next ∧ q = p ∧ m = p.act) ∨ w.calls.get? k = some (q, m) := by
    intro k q m hk
    rcases Table.get?_put_eq_some_iff.1 hk with ⟨rfl, heq⟩ | ⟨-, hk⟩
    · cases heq
      exact .inl ⟨rfl, rfl, rfl⟩
    · exact .inr hk
  constructor
  case sound => exact h.sound
  case follows =>
    intro k q m hk
    rcases hget hk with ⟨rfl, rfl, rfl⟩ | hk
    · exact q.follows fun u hu => (hp u hu).1
    · exact h.follows hk
  case apart =>
    intro k k' q q' m m' u hne hk hk' hu
    rcases hget hk with ⟨rfl, rfl, rfl⟩ | hold
    · rcases hget hk' with ⟨rfl, -, -⟩ | hold'
      · exact absurd rfl hne
      · exact (hp u hu).2 k' q' m' hold'
    · rcases hget hk' with ⟨rfl, rfl, rfl⟩ | hold'
      · intro hu'
        exact (hp u hu').2 k q m hold hu
      · exact h.apart hne hold hold' hu
  case number =>
    intro k q m u hk hu
    rcases hget hk with ⟨rfl, rfl, rfl⟩ | hk
    · obtain ⟨d, hd⟩ := (hp u hu).1
      exact h.sound.number hd
    · exact h.number hk hu
  case next =>
    intro k c hk
    rcases hget (q := c.1) (m := c.2) hk with ⟨rfl, -, -⟩ | hk
    · exact Int.lt_succ _
    · exact Int.lt_trans (h.next hk) (Int.lt_succ _)

/-- What a call does to the store in its next step, and how it stands then. -/
theorem turn (h : w.Orderly) (hc : w.calls.get? n = some (p, m)) {m' : Act Answer}
    (hm : Timed.Step m w.bank m' b) :
    (∀ x, m' ≠ .done x) ∧ Store.Silent p.unit? w.bank.store b.store ∧
        m'.Follows p.rules (fun g x _ => Primitive.Told g x) none b ∨
      ∃ x, m' = .done x ∧ Store.Deed p.unit? [⟨p, x, w.bank.store⟩] w.bank.store b.store := by
  have hrefl : p.rules.others none w.bank w.bank := ⟨h.sound, fun u _ => .refl u _⟩
  have hsilent : Store.Silent p.unit? w.bank.store b.store →
      m'.Follows p.rules (fun g x _ => Primitive.Told g x) none b →
      (∀ x, m' ≠ .done x) ∧ Store.Silent p.unit? w.bank.store b.store ∧
          m'.Follows p.rules (fun g x _ => Primitive.Told g x) none b ∨
        ∃ x, m' = .done x ∧ Store.Deed p.unit? [⟨p, x, w.bank.store⟩] w.bank.store b.store := by
    intro hs hm'
    cases m' with
    | done x =>
      obtain hx | ⟨-, hx⟩ := hm'
      · cases hx
      · exact .inr ⟨x, rfl, .failed hx hs⟩
    | act change next => exact .inl ⟨(fun x hx => by cases hx), hs, hm'⟩
    | wait span ready change next late => exact .inl ⟨(fun x hx => by cases hx), hs, hm'⟩
  rcases (h.follows hc).step hrefl hm with ⟨g, ⟨-, hsound, hown⟩, hm'⟩ | ⟨rfl, hm'⟩
  · cases g with
    | none => exact hsilent hown hm'
    | some x =>
      -- a call that has been answered is over
      cases m' with
      | done y =>
        obtain hx | ⟨hx, -⟩ := hm'
        · cases hx
          exact .inr ⟨x, rfl, .answer hown⟩
        · cases hx
      | act change next =>
        obtain ⟨-, ⟨hx, -⟩, -⟩ := hm' b ⟨hsound, fun u _ => .refl u _⟩
        cases hx
      | wait span ready change next late => cases hm'.1
  · exact hsilent (.refl _ _) hm'

/-- Whatever happens, the floor stays orderly, and the store changes by a deed. -/
theorem step (h : w.Orderly) (hs : Step w l w') :
    w'.Orderly ∧ ∃ u, Store.Deed u l w.bank.store w'.bank.store := by
  cases hs with
  | call p hp => exact ⟨h.call hp, none, .silent (.refl _ _)⟩
  | @move n p m m' b hc hm hx =>
    rcases h.turn hc hm with ⟨-, hsilent, hm'⟩ | ⟨x, heq, -⟩
    · exact ⟨h.put hc hsilent.move hm', _, .silent hsilent⟩
    · exact absurd heq (hx x)
  | @answer n p m x b hc hm =>
    rcases h.turn hc hm with ⟨hx, -⟩ | ⟨y, heq, hdeed⟩
    · exact absurd rfl (hx x)
    · cases heq
      exact ⟨h.erase hc hdeed.move, _, hdeed⟩
  | @cancel n p m hc hw =>
    have hsilent := p.silent_taken w.bank.store
    exact ⟨h.erase hc hsilent.move, _, .silent hsilent⟩
  | @drop u hu =>
    have hsilent : Store.Silent (some u) w.bank.store (w.bank.store.discard u) := .discard u
    exact ⟨h.discard hu, _, .silent hsilent⟩
  | change faults now refusals =>
    have hsilent : Store.Silent none w.bank.store { w.bank.store with faults := faults, now := now } :=
      .setting faults now
    exact ⟨h.of_move hsilent.move fun hc => .inl ⟨hc, fun v _ hv => by cases hv⟩, _, .silent hsilent⟩

end Orderly

namespace Run

variable {b : Bank} {h : List Answered} {w : Floor}

theorem orderly (hb : b.store.Sound) (hr : Run b h w) : w.Orderly := by
  induction hr with
  | start => exact .quiet hb
  | step hr hs ih => exact (ih.step hs).1

/-- What the deeds keep holds of the history and the store of every run. -/
theorem induct {J : List Answered → Store → Prop} (hb : b.store.Sound) (hstart : J [] b.store)
    (hdeed : ∀ {h u l s s'}, s.Sound → Store.Deed u l s s' → J h s → J (l ++ h) s') (hr : Run b h w) :
    J h w.bank.store := by
  induction hr with
  | start => exact hstart
  | step hr hs ih =>
    have hw := hr.orderly hb
    obtain ⟨u, hd⟩ := (hw.step hs).2
    exact hdeed hw.sound hd ih

theorem reachable (hb : b.store.Reachable) (hr : Run b h w) : w.bank.store.Reachable :=
  hr.induct (J := fun _ s => s.Reachable) hb.sound hb fun _ hd hs => hs.move hd.move

theorem extend {l : List Answered} {w' : Floor} (hr : Run b h w) (hs : Steps w l w') : Run b (l ++ h) w' := by
  induction hs with
  | refl => exact hr
  | tail hs hstep ih =>
    rw [List.append_assoc]
    exact ih.step hstep

end Run

namespace Steps

variable {w w' w'' : Floor} {l l' : List Answered}

theorem trans (h : Steps w l w') (h' : Steps w' l' w'') : Steps w (l' ++ l) w'' := by
  induction h' with
  | refl => exact h
  | tail hs hstep ih =>
    rw [List.append_assoc]
    exact ih.tail hstep

theorem orderly (h : Steps w l w') (hw : w.Orderly) : w'.Orderly := by
  induction h with
  | refl => exact hw
  | tail hs hstep ih => exact (ih.step hstep).1

theorem precedes (h : Steps w l w') (hw : w.Orderly) : w.bank.store.Precedes w'.bank.store := by
  induction h with
  | refl => exact .refl _
  | tail hs hstep ih =>
    have hw' := hs.orderly hw
    obtain ⟨u, hdeed⟩ := (hw'.step hstep).2
    exact ih.trans (hdeed.move.precedes hw'.sound)

/-- A call that nobody interferes with is answered in the end of any path that it takes alone. -/
theorem path {n : Int} {p : Primitive} {m : Act Answer} {x : Answer} {b' : Bank}
    (hc : w.calls.get? n = some (p, m)) (hm : ∀ y, m ≠ .done y) (hp : Timed.Path m w.bank (.done x) b') :
    ∃ s w', Steps w [⟨p, x, s⟩] w' ∧ w'.bank = b' ∧ w'.calls = w.calls.erase n := by
  obtain ⟨bank, calls, next⟩ := w
  dsimp only at hc hp ⊢
  generalize hk : Timed.done x = k at hp
  induction hp generalizing calls with
  | refl => exact absurd hk.symm (hm x)
  | @head m m' k s t u hs rest ih =>
    have hgo (hm' : ∀ y, m' ≠ .done y) : ∃ s' w', Steps ⟨s, calls, next⟩ [⟨p, x, s'⟩] w' ∧ w'.bank = u ∧
        w'.calls = calls.erase n := by
      obtain ⟨s', w', hsteps, hb, hcalls⟩ := ih hm' _ (Table.get?_put_self _ _ _) hk
      have hmove : Steps ⟨s, calls, next⟩ [] ⟨t, calls.put n (p, m'), next⟩ :=
        Steps.refl.tail (.move hc hs hm')
      exact ⟨s', w', hmove.trans hsteps, hb, hcalls.trans (Table.erase_put _ _ _)⟩
    cases m' with
    | done y =>
      cases rest with
      | refl =>
        cases hk
        exact ⟨_, _, Steps.refl.tail (.answer hc hs), rfl, rfl⟩
      | head hs' _ => cases hs'
    | act change next' => exact hgo fun y hy => by cases hy
    | wait span ready change next' late => exact hgo fun y hy => by cases hy

/-- A primitive that nobody interferes with is answered as it is alone. -/
theorem alone (hw : w.Orderly) (p : Primitive) (hp : ∀ u, p.unit? = some u → w.Ready u) :
    ∃ s w', Steps w [⟨p, (p.act.run w.bank).value, s⟩] w' ∧ w'.bank = (p.act.run w.bank).state ∧
      w'.calls = w.calls := by
  have hact : ∀ y, p.act ≠ .done y := by
    intro y hy
    cases p <;> cases hy
  have hcall : Steps w [] _ := Steps.refl.tail (.call p hp)
  obtain ⟨s, w', hsteps, hbank, hcalls⟩ :=
    path (w := { w with calls := w.calls.put w.next (p, p.act), next := w.next + 1 })
      (Table.get?_put_self _ _ _) hact (Timed.path_run p.act w.bank)
  have hnext : w.calls.get? w.next = none := by
    refine Option.eq_none_iff_forall_ne_some.2 fun c hc => ?_
    exact Int.lt_irrefl _ (hw.next hc)
  refine ⟨s, w', hcall.trans hsteps, hbank, hcalls.trans ?_⟩
  exact (Table.erase_put _ _ _).trans (Table.erase_of_get?_eq_none hnext)

end Steps

end Floor

/-! ### Primitives one after the other -/

namespace Primitive

/-- The bank after primitives, latest first, that are made one after the other. -/
def carry (b : Bank) : List Primitive → Bank
  | [] => b
  | p :: ps => (p.act.run (carry b ps)).state

def answers (b : Bank) : List Primitive → List (Primitive × Answer)
  | [] => []
  | p :: ps => (p, (p.act.run (carry b ps)).value) :: answers b ps

/-- Every primitive finds its unit of work open. -/
def Fits (b : Bank) : List Primitive → Prop
  | [] => True
  | p :: ps => (∀ u ∈ p.unit?, ((carry b ps).store.drafts.get? u).isSome = true) ∧ Fits b ps

instance Fits.decidable (b : Bank) : ∀ ps, Decidable (Fits b ps)
  | [] => .isTrue trivial
  | _ :: ps => @instDecidableAnd _ _ inferInstance (Fits.decidable b ps)

end Primitive

theorem Floor.Steps.carry {w : Floor} (hw : w.Orderly) (hcalls : w.calls = .empty) (ps : List Primitive)
    (hps : Primitive.Fits w.bank ps) : ∃ l w', Steps w l w' ∧ w'.bank = Primitive.carry w.bank ps ∧
      w'.calls = .empty ∧ l.map (fun e => (e.primitive, e.answer)) = Primitive.answers w.bank ps := by
  induction ps with
  | nil => exact ⟨[], w, .refl, rfl, hcalls, rfl⟩
  | cons p ps ih =>
    obtain ⟨hp, hps⟩ := hps
    obtain ⟨l, w', hsteps, hbank, hnone, hl⟩ := ih hps
    have hready : ∀ u, p.unit? = some u → w'.Ready u := by
      intro u hu
      refine ⟨?_, fun n q m hq => ?_⟩
      · rw [hbank]
        exact Option.isSome_iff_exists.1 (hp u hu)
      · rw [hnone] at hq
        cases hq
    obtain ⟨s, w'', hone, hbank', hcalls'⟩ := alone (hsteps.orderly hw) p hready
    rw [hbank] at hone hbank'
    refine ⟨_, w'', hsteps.trans hone, hbank', hcalls'.trans hnone, ?_⟩
    rw [List.singleton_append, List.map_cons, hl]
    rfl

theorem Floor.Run.carry {b : Bank} (hb : b.store.Sound) (ps : List Primitive) (hps : Primitive.Fits b ps) :
    ∃ h w, Run b h w ∧ w.bank = Primitive.carry b ps ∧ w.calls = .empty ∧
      h.map (fun e => (e.primitive, e.answer)) = Primitive.answers b ps := by
  obtain ⟨l, w, hsteps, hbank, hcalls, hl⟩ := Steps.carry (w := quiet b) (.quiet hb) rfl ps hps
  have hr := (Run.start (b := b)).extend hsteps
  rw [List.append_nil] at hr
  exact ⟨l, w, hr, hbank, hcalls, hl⟩

end Teller

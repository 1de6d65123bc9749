import Teller.Proofs.Bank.Alone
import Teller.Proofs.Gateway.Status

/-!
# Accounts of principals

Only the owner pays from an account, opens or removes it (`Book.OnlyOwner`): each way in which the book can
be dealt with concerns an account of the principal. A request that names no principal is answered without a
look at the book.
-/

namespace Teller

/-- Every account that is poorer, gone or new is the owner's. -/
structure Book.OnlyOwner (owner : String) (b b' : Book) : Prop where
  poorer : ∀ {id : Int} {a a' : Account}, b.accounts.get? id = some a → b'.accounts.get? id = some a' →
    a'.balance < a.balance → a.owner = owner
  gone : ∀ {id : Int} {a : Account}, b.accounts.get? id = some a → b'.accounts.get? id = none → a.owner = owner
  new : ∀ {id : Int} {a' : Account}, b.accounts.get? id = none → b'.accounts.get? id = some a' → a'.owner = owner

namespace Book.OnlyOwner

variable {owner : String} {b b' : Book}

/-- It is enough that each row is as before, not poorer, the owner's or new and the owner's. -/
theorem of_rows (h : ∀ id, b'.accounts.get? id = b.accounts.get? id ∨
    (∃ a a', b.accounts.get? id = some a ∧ b'.accounts.get? id = some a' ∧ a.balance ≤ a'.balance) ∨
    (∃ a, b.accounts.get? id = some a ∧ a.owner = owner) ∨
    ∃ a', b.accounts.get? id = none ∧ b'.accounts.get? id = some a' ∧ a'.owner = owner) :
    b.OnlyOwner owner b' := by
  constructor
  case poorer =>
    intro id a a' ha ha' hlt
    rcases h id with hsame | ⟨x, x', hx, hx', hle⟩ | ⟨x, hx, howner⟩ | ⟨x', hnone, -⟩
    · obtain rfl := Option.some.inj (ha.symm.trans (hsame ▸ ha'))
      omega
    · obtain rfl := Option.some.inj (ha.symm.trans hx)
      obtain rfl := Option.some.inj (ha'.symm.trans hx')
      omega
    · obtain rfl := Option.some.inj (ha.symm.trans hx)
      exact howner
    · cases ha.symm.trans hnone
  case gone =>
    intro id a ha ha'
    rcases h id with hsame | ⟨x, x', -, hx', -⟩ | ⟨x, hx, howner⟩ | ⟨x', hnone, -⟩
    · cases ha.symm.trans (hsame.symm.trans ha')
    · cases ha'.symm.trans hx'
    · obtain rfl := Option.some.inj (ha.symm.trans hx)
      exact howner
    · cases ha.symm.trans hnone
  case new =>
    intro id a' ha ha'
    rcases h id with hsame | ⟨x, x', hx, -, -⟩ | ⟨x, hx, -⟩ | ⟨x', -, hx', howner⟩
    · cases ha'.symm.trans (hsame.trans ha)
    · cases ha.symm.trans hx
    · cases ha.symm.trans hx
    · obtain rfl := Option.some.inj (ha'.symm.trans hx')
      exact howner

theorem refl (owner : String) (b : Book) : b.OnlyOwner owner b :=
  of_rows fun _ => .inl rfl

theorem of_committed {r : Receipt} (h : r.Committed b b')
    (hsource : ∀ a, b.accounts.get? r.transfer.source = some a → a.owner = owner) : b.OnlyOwner owner b' := by
  obtain ⟨x, hx, -⟩ := h.source
  obtain ⟨y, hy, hry⟩ := h.target
  refine of_rows fun id => ?_
  rw [h.accounts, Table.get?_put, Table.get?_put]
  split
  · -- whoever is paid is not poorer
    rename_i hid
    refine .inr (.inl ⟨y, r.targetAccount, hid ▸ hy, rfl, ?_⟩)
    have hamount := h.amount
    rw [hry]
    show y.balance ≤ y.balance + r.transfer.amount
    omega
  · split
    · rename_i hid
      exact .inr (.inr (.inl ⟨x, hid ▸ hx, hsource x hx⟩))
    · exact .inl rfl

theorem of_opens {balance : Int} {a : Account} (h : b.Opens balance a b') (ha : a.owner = owner) :
    b.OnlyOwner owner b' := by
  refine of_rows fun id => ?_
  rw [h.book, Table.get?_put]
  split
  · rename_i hid
    exact .inr (.inr (.inr ⟨a, hid ▸ h.newAccount, rfl, ha⟩))
  · exact .inl rfl

theorem of_removes {id : Int} {a : Account} (h : b.Removes id b') (hget : b.accounts.get? id = some a)
    (ha : a.owner = owner) : b.OnlyOwner owner b' := by
  refine of_rows fun k => ?_
  rw [h.book, Table.get?_erase]
  split
  · rename_i hk
    exact .inr (.inr (.inl ⟨a, hk ▸ hget, ha⟩))
  · exact .inl rfl

end Book.OnlyOwner

theorem Book.Deals.onlyOwner {owner : String} {overdraft : Bool} {x : Verdict} {b b' : Book}
    (h : Book.Deals (·.owner = owner) overdraft x b b') (hb : ∀ {k a}, b.accounts.get? k = some a → a.id = k) :
    b.OnlyOwner owner b' := by
  cases x with
  | posted r =>
    obtain ⟨o, a, hposts, ha, howner⟩ := h
    refine .of_committed (hposts.committed hb) fun a' ha' => ?_
    rw [hposts.records.1.1] at ha'
    obtain rfl := Option.some.inj (ha.symm.trans ha')
    exact howner
  | opened a => exact .of_opens h.1 h.2
  | removed id =>
    obtain ⟨hremoves, a, ha, howner⟩ := h
    exact .of_removes hremoves ha howner
  | failed cause =>
    obtain rfl : b' = b := h
    exact .refl owner b'

namespace Attempt

variable {ε α β : Type}

theorem prompt_bind {m : Attempt ε α} {f : α → Attempt ε β} (h : m.run.Prompt) (hf : ∀ a, (f a).run.Prompt) :
    (m >>= f).run.Prompt := by
  rw [ExceptT.run_bind]
  refine h.bind ?_
  rintro (e | a)
  · trivial
  · exact hf a

theorem prompt_sure_bind {m : Act α} {f : α → Attempt ε β} (h : m.Prompt) (hf : ∀ a, (f a).run.Prompt) :
    (sure m >>= f).run.Prompt :=
  prompt_bind (m := sure m) (h.bind fun _ => trivial) hf

end Attempt

namespace Gateway

variable {terms : Terms} {r : Request} {x : Answer} {b b' : Bank}

/-! ### Requests without a principal -/

/-- No header names a principal in characters that can be read. -/
def Request.Anonymous (r : Request) : Prop :=
  ∀ value, r.header? principalHeader = some value → isPlain value = true → Text.trim value = ""

theorem Request.Anonymous.principal? (h : r.Anonymous) : r.principal? = none := by
  unfold Request.principal?
  cases hvalue : r.header? principalHeader with
  | none => rfl
  | some value =>
    show (if isPlain value then if Text.trim value = "" then none else some (Text.trim value) else none) = none
    split
    · rename_i hplain
      rw [if_pos (h value hvalue hplain)]
    · rfl

theorem Request.principal?_of_header {value : String} (h : r.header? principalHeader = some value)
    (hplain : isPlain value = true) (hblank : Text.trim value ≠ "") : r.principal? = some (Text.trim value) := by
  unfold Request.principal?
  rw [h]
  show (if isPlain value then if Text.trim value = "" then none else some (Text.trim value) else none) = _
  rw [if_pos hplain, if_neg hblank]

/-- A request that names no principal is refused, or it asks how the bank is. -/
theorem serve_of_anonymous (terms : Terms) (hr : r.Anonymous) :
    (∃ x, serve terms r = throw x) ∨ serve terms r = serveHealth := by
  rcases serve_cases terms r with ⟨x, -, h⟩ | ⟨-, h⟩ | ⟨p, route, hp, -⟩
  · exact .inl ⟨x, h⟩
  · exact .inr h
  · rw [hr.principal?] at hp
    cases hp

theorem prompt_serveHealth : serveHealth.run.Prompt := by
  have hcheck : Bank.healthCheck.outcome.Prompt := by
    refine Attempt.prompt_sure_bind (m := .get) (fun _ => trivial) fun b => ?_
    split <;> trivial
  refine Attempt.prompt_sure_bind hcheck fun result => ?_
  cases result with
  | ok => exact Attempt.prompt_sure_bind (m := .look (·.now)) (fun _ => trivial) fun _ => trivial
  | error e => exact Attempt.prompt_sure_bind (m := .note (.healthCheckFailed e)) (fun _ => trivial) fun _ => trivial

/-- How the bank is, told by its refusals and its clock. -/
theorem value_serveHealth (b : Bank) : (serveHealth.run.run b).value =
    match b.refusal? .healthCheck none with
    | none => .ok (.success 200 (.record [("status", .text "healthy"), ("timestamp_ms", .int b.store.now.epochMillis)]))
    | some _ => .error (.failure (.unavailable "unavailable")) := by
  have hcheck := Bank.receive_alone .healthCheck none b
  unfold serveHealth Bank.healthCheck
  cases h : b.refusal? .healthCheck none with
  | none =>
    rw [h] at hcheck
    rw [Attempt.run_sure_bind (m := Attempt.outcome _) hcheck]
    rfl
  | some e =>
    rw [h] at hcheck
    rw [Attempt.run_sure_bind (m := Attempt.outcome _) hcheck]
    rfl

/-- A request that names no principal is answered without a look at the book. -/
theorem answer_of_anonymous (hr : r.Anonymous) {b₁ b₁' : Bank} {x₁ : Answer} (hrefusals : b₁.refusals = b.refusals)
    (hnow : b₁.store.now = b.store.now) (hp : Timed.Path (respond terms r) b (.done x) b')
    (hp₁ : Timed.Path (respond terms r) b₁ (.done x₁) b₁') : x₁ = x := by
  have hserve : (serve terms r).run.Prompt ∧
      ((serve terms r).run.run b₁).value = ((serve terms r).run.run b).value := by
    rcases serve_of_anonymous terms hr with ⟨y, h⟩ | h <;> rw [h]
    · exact ⟨trivial, rfl⟩
    · have hrefusal : b₁.refusal? .healthCheck none = b.refusal? .healthCheck none := by
        unfold Bank.refusal?
        rw [hrefusals]
      refine ⟨prompt_serveHealth, ?_⟩
      rw [value_serveHealth, value_serveHealth, hrefusal, hnow]
  have hprompt : (respond terms r).Prompt := by
    refine hserve.1.bind fun result => ?_
    cases result <;> trivial
  rw [(hprompt.path hp).1, (hprompt.path hp₁).1]
  rw [value_respond, value_respond, hserve.2]

/-! ### Requests of principals -/

/-- Whoever owns nothing leaves the book as it is. -/
theorem book_of_dealt {mine : Account → Prop} {overdraft : Bool} {g : Stage Verdict} {k k' : Book}
    (hmine : ∀ a, ¬ mine a) (h : g.Dealt mine overdraft k k') : k' = k := by
  unfold Stage.Dealt at h
  split at h
  · exact h
  · rename_i x _
    cases x with
    | posted receipt =>
      obtain ⟨-, a, -, -, ha⟩ := h
      exact absurd ha (hmine a)
    | opened a => exact absurd h.2 (hmine a)
    | removed id =>
      obtain ⟨-, a, -, ha⟩ := h
      exact absurd ha (hmine a)
    | failed cause => exact h

theorem Request.mine_iff {p : String} (hp : r.principal? = some p) (a : Account) : r.Mine a ↔ a.owner = p := by
  unfold Request.Mine
  rw [hp, Option.some.injEq, eq_comm]

/-- Only the owner pays from an account, opens or removes it: without a principal that can be read, a request
leaves the book as it is and the answer is the same whatever the book holds; with a principal, every account
that is poorer, gone or new is the principal's. -/
theorem only_owner_deals (hb : b.store.Reachable) (hp : Timed.Path (respond terms r) b (.done x) b') :
    (r.Anonymous → b'.store.book = b.store.book ∧
      ∀ {b₁ b₁' : Bank} {x₁ : Answer}, b₁.refusals = b.refusals → b₁.store.now = b.store.now →
        Timed.Path (respond terms r) b₁ (.done x₁) b₁' → x₁ = x) ∧
    ∀ value, r.header? principalHeader = some value → isPlain value = true → Text.trim value ≠ "" →
      b.store.book.OnlyOwner (Text.trim value) b'.store.book := by
  have hs := hb.sound
  have hid : ∀ {k a}, b.store.book.accounts.get? k = some a → a.id = k := fun ha => (hs.account ha).1
  obtain ⟨p, -, hdealt⟩ := ends_of_path hs hp
  constructor
  · intro hr
    refine ⟨book_of_dealt (fun a ha => ?_) hdealt, fun hrefusals hnow hp₁ =>
      answer_of_anonymous hr hrefusals hnow hp hp₁⟩
    rw [Request.Mine, hr.principal?] at ha
    cases ha
  · intro value hvalue hplain hblank
    have hmine := Request.mine_iff (Request.principal?_of_header hvalue hplain hblank)
    unfold Stage.Dealt at hdealt
    split at hdealt
    · rw [hdealt]
      exact .refl _ _
    · exact (hdealt.mono fun a => (hmine a).1).onlyOwner hid

/-- Ann pays 30 from an account of hers; a request with the same body and a blank header changes nothing. -/
theorem owner_pays_stranger_does_not :
    let b : Bank := ⟨.pair .none, [], []⟩
    let r (principal : String) : Request := ⟨"POST", "/api/v1/transfers",
      [("X-Principal", principal), ("content-type", "application/json")],
      "\x7b\"from_account_id\":1,\"to_account_id\":2,\"amount\":30,\"currency\":\"CAD\"\x7d"⟩
    let t := (respond ⟨false, none⟩ (r " ann ")).run b
    let u := (respond ⟨false, none⟩ (r " ")).run b
    t.value.status = 201 ∧ t.state.store.book.accounts.values.map (·.balance) = [70, 30] ∧
      b.store.book.OnlyOwner "ann" t.state.store.book ∧ u.value.status = 401 ∧ u.state.store.book = b.store.book := by
  intro b r t u
  have hstatus : t.value.status = 201 ∧ u.value.status = 401 := by decide +kernel
  have hbalances : t.state.store.book.accounts.values.map (·.balance) = [70, 30] := by decide +kernel
  have hann := (only_owner_deals (b := b) (Store.reachable_pair .none)
    (Timed.path_run (respond ⟨false, none⟩ (r " ann ")) b)).2 " ann " (by decide +kernel) (by decide +kernel)
    (by decide +kernel)
  have hblank := (only_owner_deals (b := b) (Store.reachable_pair .none)
    (Timed.path_run (respond ⟨false, none⟩ (r " ")) b)).1 fun value hvalue _ => ?_
  · rw [show Text.trim " ann " = "ann" by decide +kernel] at hann
    exact ⟨hstatus.1, hbalances, hann, hstatus.2, hblank.1⟩
  · have hheader : (r " ").header? principalHeader = some " " := by decide +kernel
    obtain rfl := Option.some.inj (hheader.symm.trans hvalue)
    decide +kernel

end Gateway

end Teller

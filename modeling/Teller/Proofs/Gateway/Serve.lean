import Mathlib.Data.List.DropRight
import Teller.Gateway.Service
import Teller.Proofs.Ledger.Dealing

/-!
# What requests do

A request is read first, and a request that cannot be read is refused before anything is done (`Reads`).
Most routes only look at the bank; three of them deal with the book, for the principal of the request, and
answer with success if and only if they have done so (`Ends`, `telling_respond`).
-/

namespace Teller

/-! ### Principals -/

/-- There are no blanks around a text without the blanks around it. -/
theorem Text.trim_trim (s : String) : Text.trim (Text.trim s) = Text.trim s := by
  have hchars : ∀ cs : List Char, Text.trimChars (Text.trimChars cs) = Text.trimChars cs := by
    intro cs
    have hright : ∀ l : List Char, (Text.trimLeft l.reverse).reverse = l.rdropWhile Text.isBlank := fun _ => rfl
    have hleft : Text.trimLeft (Text.trimChars cs) = Text.trimChars cs := by
      -- what is cut off at the end leaves the first character, which is no blank
      refine List.dropWhile_eq_self_iff.2 fun hlen => ?_
      have hprefix : Text.trimChars cs <+: Text.trimLeft cs := List.rdropWhile_prefix _ _
      have hlen' : 0 < (Text.trimLeft cs).length := Nat.lt_of_lt_of_le hlen hprefix.length_le
      have hhead := List.dropWhile_eq_self_iff.1 (List.dropWhile_idempotent Text.isBlank cs) hlen'
      have hget := hprefix.getElem hlen
      rw [hget]
      exact hhead
    show (Text.trimLeft (Text.trimLeft (Text.trimChars cs)).reverse).reverse = Text.trimChars cs
    rw [hleft, hright]
    exact List.rdropWhile_idempotent _ _
  rw [Text.trim, Text.trim, String.toList_ofList, hchars]

/-! ### Statuses of failures -/

theorem AccountError.le_status (e : AccountError) : 400 ≤ e.status := by
  cases e <;> exact Nat.le_of_ble_eq_true rfl

theorem TransferError.le_status (e : TransferError) : 400 ≤ e.status := by
  unfold TransferError.status TransferError.statusOfCode
  split <;> omega

namespace Gateway

theorem Request.trim_of_principal? {r : Request} {p : String} (h : r.principal? = some p) : Text.trim p = p := by
  unfold Request.principal? at h
  obtain ⟨value, -, h⟩ := Option.bind_eq_some_iff.1 h
  split at h
  · dsimp only at h
    split at h
    · cases h
    · cases h
      exact Text.trim_trim value
  · cases h

/-- What a request names. -/
def Request.route? (r : Request) : Option Route :=
  Route.ofPath? (pathAndQuery r.target).1

/-- The account is the principal's who makes the request. -/
def Request.Mine (r : Request) (a : Account) : Prop :=
  r.principal? = some a.owner

/-- How a request ends: it has not touched the book, and is refused if it was to do so, or it has done what
it is answered to have done, and has said so in the journal. -/
inductive Ends (r : Request) : Progress → Answer → Prop
  | idle {p : Progress} {x : Answer} (hidle : p.stage.Idle) (hunit : p.stage.unit = none)
    (hstatus : r.method = "POST" ∨ r.method = "DELETE" → 400 ≤ x.status) : Ends r p x
  | posted (receipt : Receipt) (hmethod : r.method = "POST") (hroute : r.route? = some .transfers) :
    Ends r ⟨⟨none, some (.posted receipt)⟩, true⟩ (.success 201 receipt.datum)
  | opened (a : Account) (hmethod : r.method = "POST") (hroute : r.route? = some .accounts) :
    Ends r ⟨⟨none, some (.opened a)⟩, true⟩ (.success 201 a.datum)
  | removed {raw cs : List Char} {id : Int} (hmethod : r.method = "DELETE")
    (hroute : r.route? = some (.account raw)) (htext : Percent.text? raw = some cs)
    (hid : Numeral.readAmount cs = .ok id) :
    Ends r ⟨⟨none, some (.removed id)⟩, true⟩ (.success 200 .absent)

theorem Failure.le_ofCode {code message : String} {status : Nat} (h : 400 ≤ status) :
    400 ≤ (Failure.ofCode code status message).status := by
  unfold Failure.ofCode
  split
  · exact Nat.le_of_ble_eq_true rfl
  · exact h

/-! ### Reading requests -/

/-- Something is read, or it is refused at once. -/
def Reads {α : Type} (m : Serving α) : Prop :=
  (∃ a, m = pure a) ∨ ∃ x : Answer, 400 ≤ x.status ∧ m = throw x

namespace Reads

variable {α β γ : Type} {m : Serving α} {f : α → Serving β}

theorem bind (h : Reads m) (hf : ∀ a, Reads (f a)) : Reads (m >>= f) := by
  rcases h with ⟨a, rfl⟩ | ⟨x, hx, rfl⟩
  · rw [pure_bind]
    exact hf a
  · exact .inr ⟨x, hx, rfl⟩

theorem refused (x : Answer) (hx : 400 ≤ x.status) : Reads (throw x : Serving α) :=
  .inr ⟨x, hx, rfl⟩

theorem looks_bind (h : Reads m) (hf : ∀ a, (f a).run.Looks) : (m >>= f).run.Looks := by
  rcases h with ⟨a, rfl⟩ | ⟨x, -, rfl⟩
  · rw [pure_bind]
    exact hf a
  · trivial

theorem follows_bind {R : Rules Bank γ} {Q : γ → Except Answer β → Bank → Prop} {g : γ} {b : Bank} (h : Reads m)
    (hf : ∀ a, m = pure a → (f a).run.Follows R Q g b) (hfail : ∀ x : Answer, 400 ≤ x.status → Q g (.error x) b) :
    (m >>= f).run.Follows R Q g b := by
  rcases h with ⟨a, rfl⟩ | ⟨x, hx, rfl⟩
  · rw [pure_bind]
    exact hf a rfl
  · exact hfail x hx

end Reads

theorem reads_rowNumber (raw : List Char) : Reads (rowNumber raw) := by
  unfold rowNumber
  split
  · exact .refused _ (Nat.le_refl _)
  · split
    · exact .inl ⟨_, rfl⟩
    · exact .refused _ (Nat.le_refl _)

/-- The number of a row is read in the text that its part of the path stands for. -/
theorem of_rowNumber {raw : List Char} {id : Int} (h : rowNumber raw = pure id) :
    ∃ cs, Percent.text? raw = some cs ∧ Numeral.readAmount cs = .ok id := by
  unfold rowNumber at h
  split at h
  · cases h
  · rename_i cs hcs
    split at h
    · rename_i n hn
      cases h
      exact ⟨cs, hcs, hn⟩
    · cases h

theorem reads_checked (complaints : List String) : Reads (checked complaints) := by
  unfold checked
  split
  · exact .inl ⟨_, rfl⟩
  · exact .refused _ (Nat.le_refl _)

theorem reads_pageOf (query : List Char) : Reads (pageOf query) := by
  unfold pageOf
  split
  · exact .refused _ (Nat.le_refl _)
  · exact (reads_checked _).bind fun _ => .inl ⟨_, rfl⟩

theorem reads_bodyOf (schema : Schema) (r : Request) : Reads (bodyOf schema r) := by
  have hunsupported : 400 ≤ bodyOf.unsupported.status := Nat.le_of_ble_eq_true rfl
  have hlarge : 400 ≤ bodyOf.tooLarge.status := Nat.le_of_ble_eq_true rfl
  unfold bodyOf
  dsimp only
  cases r.header? "content-type" with
  | none => exact .refused _ hunsupported
  | some value =>
    dsimp only
    split
    · exact .refused _ hunsupported
    · split
      · exact .refused _ hlarge
      · split
        · exact .inl ⟨_, rfl⟩
        · exact .refused _ (Nat.le_refl _)
        · exact .refused _ (Nat.le_of_ble_eq_true rfl)

theorem reads_formOf {α : Type} (schema : Schema) (ofDatum? : Datum → Option α) (check : α → List String)
    (r : Request) : Reads (formOf schema ofDatum? check r) := by
  refine (reads_bodyOf schema r).bind fun d => ?_
  split
  · exact (reads_checked _).bind fun _ => .inl ⟨_, rfl⟩
  · exact .refused _ (Nat.le_of_ble_eq_true rfl)

/-! ### Answers to calls -/

section

variable {ε α : Type} {m : Attempt ε α} {hidden : ε → Act Unit} {answer : ε → Answer}

/-- A call whose failures are noted and answered. -/
def answered (m : Attempt ε α) (hidden : ε → Act Unit) (answer : ε → Answer) : Serving α := do
  match ← .sure m.outcome with
  | .ok a => return a
  | .error e =>
    .sure (hidden e)
    throw (answer e)

theorem looks_answered (h : m.run.Looks) (hhidden : ∀ e, (hidden e).Looks) : (answered m hidden answer).run.Looks := by
  refine Attempt.only_sure_bind.2 (h.mono (fun _ _ h => h) fun r _ => ?_)
  cases r with
  | ok a => trivial
  | error e => exact Attempt.only_sure_bind.2 ((hhidden e).mono (fun _ _ h => h) fun _ _ => trivial)

/-- A call that fails is refused. -/
theorem telling_answered {mine : Account → Prop} {overdraft : Bool} {verdict : α → Verdict} {p : Progress}
    {b : Bank} (h : m.outcome.Follows (Conduct.dealing mine overdraft).telling
      (fun p r _ => p.Settles verdict r) p b) (hhidden : ∀ e, (hidden e).Looks)
    (hanswer : ∀ e, 400 ≤ (answer e).status) :
    (answered m hidden answer).run.Follows (Conduct.dealing mine overdraft).telling
      (fun p r _ => p.Settles verdict r ∧ ∀ x, r = .error x → 400 ≤ x.status) p b := by
  refine Attempt.follows_sure_bind.2 (h.mono ?_)
  rintro p r t hp
  cases hp with
  | ok a => exact ⟨.ok a, by rintro x ⟨⟩⟩
  | @error p e hidle hunit =>
    refine Attempt.follows_sure_bind.2 ((Conduct.telling_of_looks hidle (hhidden e)).mono ?_)
    rintro p' _ t' ⟨rfl, -⟩
    refine ⟨.error hidle hunit, fun x hx => ?_⟩
    cases hx
    exact hanswer e

end

theorem looks_noteHidden (code : String) (status : Nat) (message : String) :
    (noteHidden code status message).Looks := by
  unfold noteHidden
  split
  · exact Bank.looks_note rfl (by rintro c ⟨⟩)
  · trivial

theorem forAccounts_eq {α : Type} (m : Attempt AccountError α) : forAccounts m =
    answered m (fun e => noteHidden e.code e.status e.message) fun e => .failure (.ofAccount e) := by
  unfold forAccounts answered
  refine congrArg _ (funext fun r => ?_)
  cases r <;> rfl

theorem forTransfers_eq {α : Type} (m : Attempt TransferError α) : forTransfers m =
    answered m (fun e => noteHidden e.code e.status e.message) fun e => .failure (.ofTransfer e) := by
  unfold forTransfers answered
  refine congrArg _ (funext fun r => ?_)
  cases r <;> rfl

theorem looks_forAccounts {α : Type} {m : Attempt AccountError α} (h : m.run.Looks) : (forAccounts m).run.Looks := by
  rw [forAccounts_eq]
  exact looks_answered h fun e => looks_noteHidden _ _ _

theorem looks_forTransfers {α : Type} {m : Attempt TransferError α} (h : m.run.Looks) : (forTransfers m).run.Looks := by
  rw [forTransfers_eq]
  exact looks_answered h fun e => looks_noteHidden _ _ _

theorem telling_forAccounts {α : Type} {m : Attempt AccountError α} {mine : Account → Prop} {overdraft : Bool}
    {verdict : α → Verdict} {p : Progress} {b : Bank}
    (h : m.outcome.Follows (Conduct.dealing mine overdraft).telling (fun p r _ => p.Settles verdict r) p b) :
    (forAccounts m).run.Follows (Conduct.dealing mine overdraft).telling
      (fun p r _ => p.Settles verdict r ∧ ∀ x, r = .error x → 400 ≤ x.status) p b := by
  rw [forAccounts_eq]
  exact telling_answered h (fun _ => looks_noteHidden _ _ _) fun e => Failure.le_ofCode e.le_status

theorem telling_forTransfers {α : Type} {m : Attempt TransferError α} {mine : Account → Prop} {overdraft : Bool}
    {verdict : α → Verdict} {p : Progress} {b : Bank}
    (h : m.outcome.Follows (Conduct.dealing mine overdraft).telling (fun p r _ => p.Settles verdict r) p b) :
    (forTransfers m).run.Follows (Conduct.dealing mine overdraft).telling
      (fun p r _ => p.Settles verdict r ∧ ∀ x, r = .error x → 400 ≤ x.status) p b := by
  rw [forTransfers_eq]
  exact telling_answered h (fun _ => looks_noteHidden _ _ _) fun e => Failure.le_ofCode e.le_status

/-! ### Routes that only look at the bank -/

theorem looks_serveHealth : serveHealth.run.Looks := by
  have hcheck : Bank.healthCheck.outcome.Looks := Bank.looks_receive _ _
  refine Attempt.only_sure_bind.2 (hcheck.mono (fun _ _ h => h) fun r _ => ?_)
  cases r with
  | ok => exact Attempt.only_sure_bind.2 ((Bank.looks_look _).mono (fun _ _ h => h) fun _ _ => trivial)
  | error e =>
    have hnote : (Act.note (.healthCheckFailed e)).Looks := Bank.looks_note rfl (by rintro c ⟨⟩)
    exact Attempt.only_sure_bind.2 (hnote.mono (fun _ _ h => h) fun _ _ => trivial)

theorem looks_serveAccounts (principal : String) (query : List Char) : (serveAccounts principal query).run.Looks := by
  refine (reads_pageOf query).looks_bind fun q => ?_
  have haccounts : (Holder.accounts principal q.number q.size).run.Looks := by
    refine Attempt.looks_bind (m := ExceptT.mk (pure (Holder.page q.number q.size))) trivial fun page => ?_
    exact Attempt.looks_mapError (Attempt.looks_bind (Bank.looks_receive _ _) fun _ => Bank.looks_read _) _
  exact Attempt.looks_bind (looks_forAccounts haccounts) fun _ => trivial

theorem looks_serveAccount (principal : String) (raw : List Char) : (serveAccount principal raw).run.Looks := by
  refine (reads_rowNumber raw).looks_bind fun id => ?_
  exact Attempt.looks_bind (looks_forAccounts (Holder.looks_account principal id)) fun _ => trivial

theorem looks_serveEntries (principal : String) (raw query : List Char) :
    (serveEntries principal raw query).run.Looks := by
  refine (reads_rowNumber raw).looks_bind fun id => (reads_pageOf query).looks_bind fun q => ?_
  have hentries : (Holder.entries principal id q.number q.size).run.Looks := by
    refine Attempt.looks_bind (m := ExceptT.mk (pure (Holder.page q.number q.size))) trivial fun page => ?_
    refine Attempt.looks_bind (Holder.looks_account principal id) fun _ => Attempt.looks_mapError ?_ _
    exact Attempt.looks_bind (Bank.looks_receive _ _) fun _ => Bank.looks_read _
  exact Attempt.looks_bind (looks_forAccounts hentries) fun _ => trivial

theorem looks_serveTransfer (principal : String) (raw : List Char) : (serveTransfer principal raw).run.Looks := by
  refine (reads_rowNumber raw).looks_bind fun id => ?_
  have hread : (Transfer.readBy principal id).run.Looks := by
    have htransfer : (Bank.transfer id).run.Looks :=
      Attempt.looks_bind (Bank.looks_receive _ _) fun _ => Bank.looks_read _
    unfold Transfer.readBy
    refine Attempt.looks_bind (Attempt.looks_mapError htransfer _) fun t => ?_
    refine Attempt.looks_bind (Attempt.looks_mapError (Bank.looks_account _) _) fun source => ?_
    split
    · trivial
    refine Attempt.looks_bind (Attempt.looks_mapError (Bank.looks_account _) _) fun target => ?_
    split
    · trivial
    have hnote : (Act.note (.transferReadDenied principal id)).Looks := Bank.looks_note rfl (by rintro c ⟨⟩)
    exact Attempt.only_sure_bind.2 (hnote.mono (fun _ _ h => h) fun _ _ => trivial)
  exact Attempt.looks_bind (looks_forTransfers hread) fun _ => trivial

/-! ### Routes that deal with the book -/

/-- The answer that a request comes to, early or late. -/
def Answer.ofResult : Except Answer Answer → Answer
  | .ok x => x
  | .error x => x

variable {r : Request} {terms : Terms} {b : Bank} {p : String}

theorem value_respond (terms : Terms) (r : Request) (b : Bank) : ((respond terms r).run b).value =
    if r.method = "HEAD" then { Answer.ofResult ((serve terms r).run.run b).value with body := "" }
    else Answer.ofResult ((serve terms r).run.run b).value := by
  unfold respond
  rw [Timed.value_bind, Attempt.outcome]
  cases ((serve terms r).run.run b).value <;> rfl

theorem Ends.refused {x : Answer} (hx : 400 ≤ x.status) : Ends r .start x :=
  .idle (Stage.idle_of_none rfl) rfl fun _ => hx

/-- What a call has settled is answered with success, or it is refused. -/
theorem ends_of_settles {α : Type} {m : Serving α} {R : Rules Bank Progress} {verdict : α → Verdict} {f : α → Answer}
    (h : m.run.Follows R (fun p x _ => p.Settles verdict x ∧ ∀ y, x = .error y → 400 ≤ y.status) .start b)
    (hf : ∀ a, Ends r ⟨⟨none, some (verdict a)⟩, true⟩ (f a)) :
    (do let a ← m; return f a : Serving Answer).run.Follows R (fun p x _ => Ends r p (.ofResult x)) .start b := by
  refine Attempt.follows_bind.2 (h.mono ?_)
  rintro p x t ⟨hsettles, hx⟩
  cases hsettles with
  | ok a => exact hf a
  | error hidle hunit => exact .idle hidle hunit fun _ => hx _ rfl

theorem telling_serveOpening (hp : r.principal? = some p) (hmethod : r.method = "POST")
    (hroute : r.route? = some .accounts) (overdraft : Bool) :
    (serveOpening p r).run.Follows (Conduct.dealing r.Mine overdraft).telling
      (fun p x _ => Ends r p (.ofResult x)) .start b := by
  refine (reads_formOf _ _ _ r).follows_bind (fun f _ => ?_) fun x hx => .refused hx
  have hopen := Holder.telling_openAccount p f.currency overdraft b
  rw [Request.trim_of_principal? hp] at hopen
  generalize Holder.openAccount p f.currency = m at hopen ⊢
  have hmine : ∀ a : Account, a.owner = p → r.Mine a := by
    intro a ha
    rw [Request.Mine, hp, ha]
  exact ends_of_settles (telling_forAccounts (Conduct.dealing_mono hmine hopen)) fun a => .opened a hmethod hroute

theorem telling_serveDeletion (hp : r.principal? = some p) (hmethod : r.method = "DELETE") {raw : List Char}
    (hroute : r.route? = some (.account raw)) (overdraft : Bool) :
    (serveDeletion p raw).run.Follows (Conduct.dealing r.Mine overdraft).telling
      (fun p x _ => Ends r p (.ofResult x)) .start b := by
  refine (reads_rowNumber raw).follows_bind (fun id hid => ?_) fun x hx => .refused hx
  obtain ⟨cs, htext, hnumber⟩ := of_rowNumber hid
  have hdelete : (Holder.deleteAccount p id).outcome.Follows (Conduct.dealing r.Mine overdraft).telling
      (fun p x _ => p.Settles (fun _ => .removed id) x) .start b := by
    refine Conduct.dealing_mono (fun a ha => ?_) (Holder.telling_deleteAccount p id overdraft b)
    rw [Request.Mine, hp, ha]
  generalize Holder.deleteAccount p id = m at hdelete ⊢
  exact ends_of_settles (telling_forAccounts hdelete) fun _ => .removed hmethod hroute htext hnumber

theorem telling_serveSubmission (hp : r.principal? = some p) (hmethod : r.method = "POST")
    (hroute : r.route? = some .transfers) :
    (serveSubmission terms p r).run.Follows (Conduct.dealing r.Mine terms.overdraft).telling
      (fun p x _ => Ends r p (.ofResult x)) .start b := by
  refine (reads_formOf _ _ _ r).follows_bind (fun f _ => ?_) fun x hx => .refused hx
  have hsubmit : ∀ t, ((f.request p).submit terms).outcome.Follows
      (Conduct.dealing r.Mine terms.overdraft).telling (fun p x _ => p.Settles .posted x) .start t := by
    intro t
    refine Conduct.dealing_mono (fun a ha => ?_) ((f.request p).telling_submit terms t)
    rw [Request.Mine, hp, ha]
    rfl
  have hnote : (Act.note (.transferRequested p f.source f.target f.amount)).Looks :=
    Bank.looks_note rfl (by rintro c ⟨⟩)
  refine Attempt.follows_sure_bind.2 ((Conduct.telling_of_looks (Stage.idle_of_none rfl) hnote).mono ?_)
  rintro _ _ t ⟨rfl, -⟩
  generalize (f.request p).submit terms = m at hsubmit ⊢
  exact ends_of_settles (telling_forTransfers (hsubmit t)) fun receipt => .posted receipt hmethod hroute

/-! ### Requests -/

/-- A request that is neither to add nor to remove anything only looks at the bank. -/
theorem ends_of_looks {C : Conduct Verdict} {m : Serving Answer} (hidle : C.idle = Stage.Idle) (h : m.run.Looks)
    (hpost : r.method ≠ "POST") (hdelete : r.method ≠ "DELETE") :
    m.run.Follows C.telling (fun p x _ => Ends r p (.ofResult x)) .start b := by
  have hstart : C.idle Progress.start.stage := by
    rw [hidle]
    exact Stage.idle_of_none rfl
  refine (Conduct.telling_of_looks hstart h).mono ?_
  rintro _ x t ⟨rfl, -⟩
  exact .idle (Stage.idle_of_none rfl) rfl fun hm => (hm.elim hpost hdelete).elim

theorem telling_serveRoute (hp : r.principal? = some p) {route : Route} (hroute : r.route? = some route)
    (hserved : r.method ∈ route.methods) (hprivate : route.isPublic = false) (query : List Char) :
    (serveRoute terms p r query route).run.Follows (Conduct.dealing r.Mine terms.overdraft).telling
      (fun p x _ => Ends r p (.ofResult x)) .start b := by
  have hlooks : ∀ {m : Serving Answer}, m.run.Looks → r.method ≠ "POST" → r.method ≠ "DELETE" →
      m.run.Follows (Conduct.dealing r.Mine terms.overdraft).telling
        (fun p x _ => Ends r p (.ofResult x)) .start b := ends_of_looks rfl
  have hread : r.method ∈ ["GET", "HEAD"] → r.method ≠ "POST" ∧ r.method ≠ "DELETE" := by
    intro h
    rcases List.mem_pair.1 h with h | h <;> rw [h] <;> decide
  cases route with
  | health => cases hprivate
  | accounts =>
    by_cases hmethod : r.method = "POST"
    · rw [serveRoute, if_pos hmethod]
      exact telling_serveOpening hp hmethod hroute terms.overdraft
    · rw [serveRoute, if_neg hmethod]
      refine hlooks (looks_serveAccounts p query) hmethod fun hdelete => ?_
      rw [hdelete] at hserved
      revert hserved
      decide
  | account raw =>
    by_cases hmethod : r.method = "DELETE"
    · rw [serveRoute, if_pos hmethod]
      exact telling_serveDeletion hp hmethod hroute terms.overdraft
    · rw [serveRoute, if_neg hmethod]
      refine hlooks (looks_serveAccount p raw) (fun hpost => ?_) hmethod
      rw [hpost] at hserved
      revert hserved
      simp [Route.methods]
  | entries raw =>
    obtain ⟨hpost, hdelete⟩ := hread hserved
    exact hlooks (looks_serveEntries p raw query) hpost hdelete
  | transfers => exact telling_serveSubmission hp (List.mem_singleton.1 hserved) hroute
  | transfer raw =>
    obtain ⟨hpost, hdelete⟩ := hread hserved
    exact hlooks (looks_serveTransfer p raw) hpost hdelete

theorem serve_of_unrouted (terms : Terms) (hroute : r.route? = none) : serve terms r = throw (.plain 404 "") := by
  have hroute' : Route.ofPath? (pathAndQuery r.target).1 = none := hroute
  unfold serve
  simp only [hroute']

theorem serve_of_public (terms : Terms) {route : Route} (hroute : r.route? = some route)
    (hpublic : route.isPublic = true) :
    serve terms r = if r.method ∈ route.methods then serveHealth else throw (.notAllowed route) := by
  have hroute' : Route.ofPath? (pathAndQuery r.target).1 = some route := hroute
  unfold serve
  simp only [hroute', hpublic, if_true, decide_eq_true_eq]

/-- Whatever is not public is refused first of all to a request that names no principal. -/
theorem serve_of_no_principal (terms : Terms) {route : Route} (hroute : r.route? = some route)
    (hprivate : route.isPublic = false) (hp : r.principal? = none) :
    serve terms r = throw { Answer.failure (.unauthorized "Missing authenticated principal") with
      allow := if r.method ∈ route.methods then none else some route.methods } := by
  have hroute' : Route.ofPath? (pathAndQuery r.target).1 = some route := hroute
  unfold serve
  simp only [hroute', hprivate, hp, Bool.false_eq_true, if_false, decide_eq_true_eq]

theorem serve_of_principal (terms : Terms) {route : Route} (hp : r.principal? = some p) (hroute : r.route? = some route)
    (hprivate : route.isPublic = false) :
    serve terms r = if r.method ∈ route.methods then serveRoute terms p r (pathAndQuery r.target).2 route
      else throw (.notAllowed route) := by
  have hroute' : Route.ofPath? (pathAndQuery r.target).1 = some route := hroute
  unfold serve
  simp only [hroute', hprivate, hp, Bool.false_eq_true, if_false, decide_eq_true_eq]

/-- A request of a principal for something that is served. -/
theorem serve_of_served {route : Route} (hp : r.principal? = some p) (hroute : r.route? = some route)
    (hserved : r.method ∈ route.methods) (hprivate : route.isPublic = false) :
    serve terms r = serveRoute terms p r (pathAndQuery r.target).2 route := by
  rw [serve_of_principal terms hp hroute hprivate, if_pos hserved]

theorem Route.eq_health_of_isPublic {route : Route} (h : route.isPublic = true) : route = .health := by
  cases route with
  | health => rfl
  | _ => cases h

/-- Every other request is refused, or it asks how the bank is. -/
theorem serve_cases (terms : Terms) (r : Request) :
    (∃ x : Answer, 400 ≤ x.status ∧ serve terms r = throw x) ∨
      (r.method ∈ Route.health.methods ∧ serve terms r = serveHealth) ∨
      ∃ p route, r.principal? = some p ∧ r.route? = some route ∧ r.method ∈ route.methods ∧
        route.isPublic = false ∧ serve terms r = serveRoute terms p r (pathAndQuery r.target).2 route := by
  cases hroute : r.route? with
  | none => exact .inl ⟨_, Nat.le_of_ble_eq_true rfl, serve_of_unrouted terms hroute⟩
  | some route =>
    cases hpublic : route.isPublic with
    | true =>
      have hserve := serve_of_public terms hroute hpublic
      by_cases hserved : r.method ∈ route.methods
      · rw [if_pos hserved] at hserve
        exact .inr (.inl ⟨Route.eq_health_of_isPublic hpublic ▸ hserved, hserve⟩)
      · rw [if_neg hserved] at hserve
        exact .inl ⟨_, Nat.le_of_ble_eq_true rfl, hserve⟩
    | false =>
      cases hp : r.principal? with
      | none => exact .inl ⟨_, Nat.le_of_ble_eq_true rfl, serve_of_no_principal terms hroute hpublic hp⟩
      | some p =>
        have hserve := serve_of_principal terms hp hroute hpublic
        by_cases hserved : r.method ∈ route.methods
        · rw [if_pos hserved] at hserve
          exact .inr (.inr ⟨p, route, rfl, rfl, hserved, hpublic, hserve⟩)
        · rw [if_neg hserved] at hserve
          exact .inl ⟨_, Nat.le_of_ble_eq_true rfl, hserve⟩

theorem telling_serve (terms : Terms) (r : Request) (b : Bank) :
    (serve terms r).run.Follows (Conduct.dealing r.Mine terms.overdraft).telling
      (fun p x _ => Ends r p (.ofResult x)) .start b := by
  rcases serve_cases terms r with ⟨x, hx, h⟩ | ⟨hmethod, h⟩ | ⟨p, route, hp, hroute, hserved, hprivate, h⟩ <;>
    rw [h]
  · exact .refused hx
  · refine ends_of_looks rfl looks_serveHealth ?_ ?_ <;>
    · intro hm
      rw [hm] at hmethod
      revert hmethod
      decide
  · exact telling_serveRoute hp hroute hserved hprivate _

/-- Every request ends as it is answered. -/
theorem telling_respond (terms : Terms) (r : Request) (b : Bank) :
    (respond terms r).Follows (Conduct.dealing r.Mine terms.overdraft).telling
      (fun p x _ => Ends r p x) .start b := by
  unfold respond
  refine Timed.follows_bind.2 ((telling_serve terms r b).mono ?_)
  intro p x t hends
  -- HEAD is answered without the body, but it changes nothing
  have hhead : ∀ {y : Answer}, Ends r p y → Ends r p (if r.method = "HEAD" then { y with body := "" } else y) := by
    intro y hy
    split
    · rename_i hmethod
      cases hy with
      | idle hidle hunit hstatus => exact .idle hidle hunit hstatus
      | posted receipt hpost => exact absurd (hmethod.symm.trans hpost) (by decide)
      | opened a hpost => exact absurd (hmethod.symm.trans hpost) (by decide)
      | removed hdelete => exact absurd (hmethod.symm.trans hdelete) (by decide)
    · exact hy
  cases x <;> exact hhead hends

end Gateway

end Teller

import Teller.Proofs.Gateway.Serve

/-!
# Answers in envelopes

Whatever the service itself answers is an envelope: a code that is zero for success alone, a message, and data
for success alone. A request that is not understood never gets as far: its target has no route, its method is not
served, or what it says cannot be read. Such a request is turned down with a bare text, and so is every `HEAD`,
which is answered without the body.
-/

namespace Teller.Gateway

/-! ### Envelopes -/

/-- The status is that of success. -/
def Answer.Succeeds (x : Answer) : Prop :=
  200 ≤ x.status ∧ x.status < 300

/-- The body is an envelope, and it tells success and failure as the status does. -/
def Answer.Enveloped (x : Answer) : Prop :=
  ∃ e : Envelope Datum, x.body = Json.render (e.datum id) ∧ (e.code = Code.success ↔ x.Succeeds) ∧
    (e.data = none ↔ ¬ x.Succeeds)

/-- The body is no record. -/
def Answer.Bare (x : Answer) : Prop :=
  x.body.toList.head? ≠ some '\x7b'

/-- Bare words for a request that is not understood. -/
structure Answer.TurnedDown (x : Answer) : Prop where
  bare : x.Bare
  status : x.status ∈ [400, 404, 405, 413, 415, 422]

variable {x : Answer} {r : Request} {p : Prop}

theorem Answer.bare_of_empty (h : x.body = "") : x.Bare := by
  rw [Answer.Bare, h]
  decide

theorem Answer.Bare.not_enveloped (h : x.Bare) : ¬ x.Enveloped := by
  rintro ⟨e, hbody, -⟩
  refine h ?_
  rw [hbody, Json.render, String.toList_ofList, Envelope.datum, Json.write]
  rfl

theorem Failure.code_ofCode_ne_success (code : String) (status : Nat) (message : String) :
    (Failure.ofCode code status message).code ≠ Code.success := by
  unfold Failure.ofCode
  split
  · decide
  · show Failure.envelopeCode code status ≠ Code.success
    unfold Failure.envelopeCode
    split
    case h_8 => split <;> decide
    all_goals decide

namespace Answer.Enveloped

theorem failure {f : Failure} (hcode : f.code ≠ Code.success) (hstatus : 400 ≤ f.status) :
    (Answer.failure f).Enveloped := by
  have hfails : ¬ (Answer.failure f).Succeeds := fun h => by
    have hlt : f.status < 300 := h.2
    omega
  exact ⟨⟨f.code, f.message, none⟩, rfl, iff_of_false hcode hfails, iff_of_true rfl hfails⟩

theorem success {status : Nat} (d : Datum) (h : 200 ≤ status ∧ status < 300) :
    (Answer.success status d).Enveloped :=
  ⟨⟨Code.success, "ok", some d⟩, rfl, iff_of_true rfl h, iff_of_false (by rintro ⟨⟩) (not_not_intro h)⟩

theorem ofAccount (e : AccountError) : (Answer.failure (.ofAccount e)).Enveloped :=
  failure (Failure.code_ofCode_ne_success _ _ _) (Failure.le_ofCode e.le_status)

theorem ofTransfer (e : TransferError) : (Answer.failure (.ofTransfer e)).Enveloped :=
  failure (Failure.code_ofCode_ne_success _ _ _) (Failure.le_ofCode e.le_status)

end Answer.Enveloped

theorem head?_append {s t : String} {c : Char} (h : s.toList.head? = some c) : (s ++ t).toList.head? = some c := by
  rw [String.toList_append, List.head?_append, h]
  rfl

/-- Words that begin with another character are no record. -/
theorem Answer.TurnedDown.plain {status : Nat} {body : String} (c : Char) (hbody : body.toList.head? = some c)
    (hc : c ≠ '\x7b') (hstatus : status ∈ [400, 404, 405, 413, 415, 422]) : (Answer.plain status body).TurnedDown := by
  refine ⟨fun h => hc ?_, hstatus⟩
  exact Option.some.inj (hbody.symm.trans h)

theorem Answer.TurnedDown.empty (hbody : x.body = "") (hstatus : x.status ∈ [400, 404, 405, 413, 415, 422]) :
    x.TurnedDown :=
  ⟨Answer.bare_of_empty hbody, hstatus⟩

theorem Answer.TurnedDown.notAllowed (route : Route) : (Answer.notAllowed route).TurnedDown :=
  .empty rfl (show 405 ∈ _ by decide)

/-! ### What requests say -/

/-- A part of a path that is the number of a row. -/
def IsRowNumber (raw : List Char) : Prop :=
  ∃ cs id, Percent.text? raw = some cs ∧ Numeral.readAmount cs = .ok id

/-- A query that asks for a page. -/
def AsksPage (query : List Char) : Prop :=
  ∃ q, PageQuery.read query = .ok q

namespace Request

/-- The request says that its body is JSON. -/
def SaysJson (r : Request) : Prop :=
  ∃ value, r.header? "content-type" = some value ∧ isPlain value = true ∧ MediaType.isJson value = true

/-- The body fits, is JSON, and of the shape. -/
def Holds (schema : Schema) (r : Request) : Prop :=
  r.SaysJson ∧ r.body.Fits ∧ ∃ d, Json.read schema r.body.text = .ok d

/-- All that the route looks at can be read. -/
def Readable (r : Request) : Route → Prop
  | .health => True
  | .accounts => if r.method = "POST" then r.Holds AccountForm.schema else AsksPage (pathAndQuery r.target).2
  | .account raw => IsRowNumber raw
  | .entries raw => IsRowNumber raw ∧ AsksPage (pathAndQuery r.target).2
  | .transfers => r.Holds TransferForm.schema
  | .transfer raw => IsRowNumber raw

/-- The request has a route, and the route serves it: it can be read, or it is refused for naming no principal,
before anything else is looked at. `HEAD` has no use for an envelope. -/
def Understood (r : Request) : Prop :=
  r.method ≠ "HEAD" ∧ ∃ route, r.route? = some route ∧
    (route.isPublic = false ∧ r.principal? = none ∨ r.method ∈ route.methods ∧ r.Readable route)

end Request

/-! ### Envelopes for what is understood -/

/-- The answer is an envelope if the condition holds, and bare words if not. -/
def Answer.Told (p : Prop) (x : Answer) : Prop :=
  (p → x.Enveloped) ∧ (¬ p → x.TurnedDown)

/-- However it ends, the answer is an envelope exactly on the condition. -/
structure Tells (p : Prop) (m : Serving Answer) : Prop where
  only : m.run.Only (fun _ _ => True) fun result => (Answer.ofResult result).Told p

theorem Answer.Enveloped.told (h : x.Enveloped) (hp : p) : x.Told p :=
  ⟨fun _ => h, fun hn => absurd hp hn⟩

theorem Answer.TurnedDown.told (h : x.TurnedDown) (hp : ¬ p) : x.Told p :=
  ⟨fun h => absurd h hp, fun _ => h⟩

namespace Tells

variable {q : Prop} {m : Serving Answer}

theorem congr (h : Tells p m) (hpq : p ↔ q) : Tells q m :=
  propext hpq ▸ h

theorem answered {ε α : Type} {hidden : ε → Act Unit} {answer : ε → Answer} {f : α → Answer} (hp : p)
    (m : Attempt ε α) (hanswer : ∀ e, (answer e).Enveloped) (hf : ∀ a, (f a).Enveloped) :
    Tells p (do let a ← Gateway.answered m hidden answer; return f a) := by
  refine ⟨Attempt.only_bind.2 (Attempt.only_sure_bind.2 (m.outcome.only_value fun result => ?_))⟩
  cases result with
  | ok a => exact (hf a).told hp
  | error e => exact Attempt.only_sure_bind.2 ((hidden e).only_value fun _ => (hanswer e).told hp)

theorem forAccounts {α : Type} {f : α → Answer} (hp : p) (m : Attempt AccountError α) (hf : ∀ a, (f a).Enveloped) :
    Tells p (do let a ← Gateway.forAccounts m; return f a) := by
  rw [forAccounts_eq]
  exact Tells.answered hp m Answer.Enveloped.ofAccount hf

theorem forTransfers {α : Type} {f : α → Answer} (hp : p) (m : Attempt TransferError α)
    (hf : ∀ a, (f a).Enveloped) : Tells p (do let a ← Gateway.forTransfers m; return f a) := by
  rw [forTransfers_eq]
  exact Tells.answered hp m Answer.Enveloped.ofTransfer hf

end Tells

/-! ### Reading -/

/-- Something is read if it can be; then it may still be refused for what it says. -/
inductive ReadsIf {α : Type} (p : Prop) (m : Serving α) : Prop
  | read (a : α) (hp : p) (h : m = pure a)
  | refused (x : Answer) (hp : p) (hx : x.Enveloped) (h : m = throw x)
  | turnedDown (x : Answer) (hp : ¬ p) (hx : x.TurnedDown) (h : m = throw x)

theorem ReadsIf.bind {α β : Type} {m : Serving α} {f : α → Serving β} (h : ReadsIf p m)
    (hf : p → ∀ a, ReadsIf p (f a)) : ReadsIf p (m >>= f) := by
  cases h with
  | read a hp h =>
    rw [h, pure_bind]
    exact hf hp a
  | refused x hp hx h => exact .refused x hp hx (h ▸ rfl)
  | turnedDown x hp hx h => exact .turnedDown x hp hx (h ▸ rfl)

theorem ReadsIf.tells {α : Type} {m : Serving α} {f : α → Serving Answer} (h : ReadsIf p m)
    (hf : p → ∀ a, Tells p (f a)) : Tells p (m >>= f) := by
  cases h with
  | read a hp h =>
    rw [h, pure_bind]
    exact hf hp a
  | refused x hp hx h =>
    rw [h]
    exact ⟨hx.told hp⟩
  | turnedDown x hp hx h =>
    rw [h]
    exact ⟨hx.told hp⟩

theorem ReadsIf.checked {α : Type} (hp : p) (complaints : List String) (a : α) :
    ReadsIf p (do Gateway.checked complaints; return a) := by
  cases complaints with
  | nil => exact .read a hp rfl
  | cons complaint rest =>
    have hcode : Code.invalidParameter ≠ Code.success := by decide
    exact .refused _ hp (.failure (f := .badRequest _) hcode (Nat.le_refl _)) rfl

theorem readsIf_pageOf (query : List Char) : ReadsIf (AsksPage query) (pageOf query) := by
  unfold pageOf
  cases hread : PageQuery.read query with
  | error message =>
    have hbody : ("Failed to deserialize query string: " ++ message).toList.head? = some 'F' := head?_append (by decide)
    have hx : (Answer.plain 400 _).TurnedDown := .plain 'F' hbody (by decide) (by decide)
    refine .turnedDown _ ?_ hx rfl
    rintro ⟨q, hq⟩
    cases hread.symm.trans hq
  | ok q => exact .checked ⟨q, hread⟩ _ q

theorem readsIf_bodyOf (schema : Schema) (r : Request) : ReadsIf (r.Holds schema) (bodyOf schema r) := by
  unfold bodyOf
  have hunsupported : bodyOf.unsupported.TurnedDown := .plain 'E' (by decide) (by decide) (by decide)
  have hlarge : bodyOf.tooLarge.TurnedDown := .plain 'F' (by decide) (by decide) (by decide)
  cases hvalue : r.header? "content-type" with
  | none =>
    refine .turnedDown _ ?_ hunsupported rfl
    rintro ⟨⟨value, h, -⟩, -⟩
    cases hvalue.symm.trans h
  | some value =>
    dsimp only
    by_cases hjson : isPlain value = true ∧ MediaType.isJson value = true
    case neg =>
      rw [if_pos hjson]
      refine .turnedDown _ ?_ hunsupported rfl
      rintro ⟨⟨value', h, hjson'⟩, -⟩
      cases hvalue.symm.trans h
      exact hjson hjson'
    rw [if_neg (not_not_intro hjson)]
    by_cases hfits : r.body.Fits
    case neg =>
      rw [if_pos hfits]
      exact .turnedDown _ (fun h => hfits h.2.1) hlarge rfl
    rw [if_neg (not_not_intro hfits)]
    cases hread : Json.read schema r.body.text with
    | ok d => exact .read d ⟨⟨value, hvalue, hjson⟩, hfits, d, hread⟩ rfl
    | error e =>
      have hnot : ¬ r.Holds schema := by
        rintro ⟨-, -, d, h⟩
        cases hread.symm.trans h
      cases e with
      | malformed =>
        exact .turnedDown (.plain 400 "Failed to parse the request body as JSON") hnot
          (.plain 'F' (by decide) (by decide) (by decide)) rfl
      | mismatch path message =>
        have hbody : (bodyFault path message).toList.head? = some 'F' := head?_append (by decide)
        exact .turnedDown (.plain 422 (bodyFault path message)) hnot (.plain 'F' hbody (by decide) (by simp)) rfl

theorem readsIf_formOf {α : Type} (schema : Schema) (ofDatum? : Datum → Option α) (check : α → List String)
    (r : Request) : ReadsIf (r.Holds schema) (formOf schema ofDatum? check r) := by
  refine (readsIf_bodyOf schema r).bind fun hholds d => ?_
  cases ofDatum? d with
  | none =>
    have hx : (Answer.failure (.internal "internal error")).Enveloped := .failure (by decide) (by decide)
    exact .refused _ hholds hx rfl
  | some a => exact .checked hholds _ a

/-- The number of a row comes first, before anything else is looked at. -/
theorem Tells.rowNumber {q : Prop} {raw : List Char} {f : Int → Serving Answer}
    (hf : IsRowNumber raw → ∀ id, Tells q (f id)) : Tells (IsRowNumber raw ∧ q) (Gateway.rowNumber raw >>= f) := by
  unfold Gateway.rowNumber
  cases htext : Percent.text? raw with
  | none =>
    refine ⟨Answer.TurnedDown.told (.plain 'I' (by decide) (by decide) (by decide)) ?_⟩
    rintro ⟨⟨cs, _, h, -⟩, -⟩
    cases htext.symm.trans h
  | some cs =>
    cases hnumber : Numeral.readAmount cs with
    | ok id =>
      have hraw : IsRowNumber raw := ⟨cs, id, htext, hnumber⟩
      simp only [hnumber]
      exact (hf hraw id).congr (and_iff_right hraw).symm
    | error e =>
      simp only [hnumber]
      refine ⟨Answer.TurnedDown.told (.plain 'I' (head?_append (head?_append (by decide))) (by decide) (by decide)) ?_⟩
      rintro ⟨⟨_, _, h, hid⟩, -⟩
      cases htext.symm.trans h
      cases hnumber.symm.trans hid

/-! ### Routes -/

theorem tells_serveHealth : Tells True serveHealth := by
  refine ⟨Attempt.only_sure_bind.2 (Bank.healthCheck.outcome.only_value fun result => ?_)⟩
  cases result with
  | ok => exact Attempt.only_sure_bind.2 (Timed.only_value _ fun _ => Answer.Enveloped.told (.success _ (by decide)) trivial)
  | error e =>
    have hx : (Answer.failure (.unavailable "unavailable")).Enveloped := .failure (by decide) (by decide)
    exact Attempt.only_sure_bind.2 (Timed.only_value _ fun _ => hx.told trivial)

theorem tells_serveRoute (terms : Terms) (principal : String) (r : Request) {route : Route}
    (hserved : r.method ∈ route.methods) :
    Tells (r.Readable route) (serveRoute terms principal r (pathAndQuery r.target).2 route) := by
  have hok : 200 ≤ 200 ∧ 200 < 300 := by decide
  have hcreated : 200 ≤ 201 ∧ 201 < 300 := by decide
  cases route with
  | health => exact tells_serveHealth
  | accounts =>
    by_cases hmethod : r.method = "POST"
    · rw [serveRoute, Request.Readable, if_pos hmethod, if_pos hmethod]
      exact (readsIf_formOf _ _ _ r).tells fun hholds _ => Tells.forAccounts hholds _ fun _ => .success _ hcreated
    · rw [serveRoute, Request.Readable, if_neg hmethod, if_neg hmethod]
      exact (readsIf_pageOf _).tells fun hasks _ => Tells.forAccounts hasks _ fun _ => .success _ hok
  | account raw =>
    refine Tells.congr (p := IsRowNumber raw ∧ True) ?_ (and_iff_left trivial)
    by_cases hmethod : r.method = "DELETE"
    · rw [serveRoute, if_pos hmethod]
      exact Tells.rowNumber fun _ _ => Tells.forAccounts trivial _ fun _ => .success _ hok
    · rw [serveRoute, if_neg hmethod]
      exact Tells.rowNumber fun _ _ => Tells.forAccounts trivial _ fun _ => .success _ hok
  | entries raw =>
    refine Tells.rowNumber fun _ _ => (readsIf_pageOf _).tells fun hasks _ => ?_
    exact Tells.forAccounts hasks _ fun _ => .success _ hok
  | transfers =>
    refine (readsIf_formOf _ _ _ r).tells fun hholds _ => ?_
    refine ⟨Attempt.only_sure_bind.2 (Timed.only_value _ fun _ => ?_)⟩
    exact (Tells.forTransfers hholds _ fun _ => .success _ hcreated).only
  | transfer raw =>
    refine Tells.congr (p := IsRowNumber raw ∧ True) ?_ (and_iff_left trivial)
    exact Tells.rowNumber fun _ _ => Tells.forTransfers trivial _ fun _ => .success _ hok

/-! ### Requests -/

/-- A request is answered in an envelope exactly if it is understood; `HEAD` is another matter. -/
theorem tells_serve (terms : Terms) (hhead : r.method ≠ "HEAD") : Tells r.Understood (serve terms r) := by
  cases hroute : r.route? with
  | none =>
    rw [serve_of_unrouted terms hroute]
    refine ⟨Answer.TurnedDown.told (.empty rfl (by decide)) ?_⟩
    rintro ⟨-, route, h, -⟩
    cases hroute.symm.trans h
  | some route =>
    have hunderstood : r.Understood ↔
        (route.isPublic = false ∧ r.principal? = none ∨ r.method ∈ route.methods ∧ r.Readable route) := by
      refine ⟨?_, fun h => ⟨hhead, route, hroute, h⟩⟩
      rintro ⟨-, route', h, hreadable⟩
      cases hroute.symm.trans h
      exact hreadable
    refine Tells.congr ?_ hunderstood.symm
    cases hpublic : route.isPublic with
    | true =>
      rw [serve_of_public terms hroute hpublic]
      split
      · rename_i hserved
        have hhealth := Route.eq_health_of_isPublic hpublic
        refine tells_serveHealth.congr (iff_of_true trivial (.inr ⟨hserved, ?_⟩))
        rw [hhealth]
        trivial
      · rename_i hserved
        refine ⟨(Answer.TurnedDown.notAllowed route).told ?_⟩
        rintro (⟨⟨⟩, -⟩ | ⟨h, -⟩)
        exact hserved h
    | false =>
      cases hp : r.principal? with
      | none =>
        rw [serve_of_no_principal terms hroute hpublic hp]
        have hx : (Answer.failure (.unauthorized "Missing authenticated principal")).Enveloped :=
          .failure (by decide) (by decide)
        exact ⟨Answer.Enveloped.told hx (.inl ⟨rfl, rfl⟩)⟩
      | some p =>
        rw [serve_of_principal terms hp hroute hpublic]
        split
        · rename_i hserved
          refine (tells_serveRoute terms p r hserved).congr ⟨fun h => .inr ⟨hserved, h⟩, ?_⟩
          rintro (⟨-, ⟨⟩⟩ | ⟨-, h⟩)
          exact h
        · rename_i hserved
          refine ⟨(Answer.TurnedDown.notAllowed route).told ?_⟩
          rintro (⟨-, ⟨⟩⟩ | ⟨h, -⟩)
          exact hserved h

/-- The answer to a request is an envelope, with the code zero and with data exactly if the status is that of
success, if and only if the request is understood. Any other request is answered with bare words: no record at all,
and, but for `HEAD`, with a status for requests that name no route, a method that is not served, or something that
cannot be read. -/
theorem enveloped_iff_understood (terms : Terms) (r : Request) :
    (respond terms r).Only (fun _ _ => True) fun x => (x.Enveloped ↔ r.Understood) ∧
      (¬ r.Understood → x.Bare ∧ (r.method ≠ "HEAD" → x.status ∈ [400, 404, 405, 413, 415, 422])) := by
  unfold respond
  -- `HEAD` is served as `GET` is, and only then the body is taken away
  by_cases hhead : r.method = "HEAD"
  · have hnot : ¬ r.Understood := fun h => h.1 hhead
    refine Timed.only_bind.2 (Timed.only_value _ fun result => ?_)
    have hbare : ∀ y : Answer, { y with body := "" }.Bare := fun y => Answer.bare_of_empty rfl
    simp only [if_pos hhead]
    cases result <;>
      exact ⟨iff_of_false (hbare _).not_enveloped hnot, fun _ => ⟨hbare _, fun h => absurd hhead h⟩⟩
  · refine Timed.only_bind.2 ((tells_serve terms hhead).only.mono (fun _ _ h => h) fun result h => ?_)
    have htold : ∀ {y : Answer}, y.Told r.Understood → (y.Enveloped ↔ r.Understood) ∧
        (¬ r.Understood → y.Bare ∧ (r.method ≠ "HEAD" → y.status ∈ [400, 404, 405, 413, 415, 422])) := by
      intro y hy
      refine ⟨⟨fun hx => ?_, hy.1⟩, fun hnot => ⟨(hy.2 hnot).bare, fun _ => (hy.2 hnot).status⟩⟩
      by_contra hnot
      exact (hy.2 hnot).bare.not_enveloped hx
    simp only [if_neg hhead]
    cases result <;> exact htold h

/-- A body that breaks off is turned down with words. -/
theorem not_forall_enveloped :
    ¬ ∀ (terms : Terms) (r : Request) (b : Bank), ((respond terms r).run b).value.Enveloped := by
  intro h
  let r : Request := ⟨"POST", "/api/v1/accounts", [("x-principal", "ann"), ("content-type", "application/json")], "\x7b"⟩
  have hanswer : ((respond ⟨false, none⟩ r).run (.new (.millis 5000) .epoch)).value =
      .plain 400 "Failed to parse the request body as JSON" := by decide +kernel
  have henveloped := h ⟨false, none⟩ r (.new (.millis 5000) .epoch)
  rw [hanswer] at henveloped
  have hx : (Answer.plain 400 "Failed to parse the request body as JSON").TurnedDown :=
    .plain 'F' (by decide) (by decide) (by decide)
  exact hx.bare.not_enveloped henveloped

end Teller.Gateway

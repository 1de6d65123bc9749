import Teller.Form.Envelope
import Teller.Gateway.Failure
import Teller.Gateway.Form
import Teller.Gateway.MediaType
import Teller.Gateway.Message
import Teller.Text.Blank
import Teller.Transfer.Desk

/-!
# The service

How the bank answers requests over HTTP. A target without a route comes to nothing. All routes but
that of health are for principals, who were authenticated before and are named in a header; then the
method must be one of the route's. What a request says is read in the order path, query or body, and
checked before anything is done.
-/

namespace Teller.Gateway

/-- Something that ends with data, or early with an answer. -/
abbrev Serving (α : Type) : Type :=
  Attempt Answer α

/-! ### Answers -/

def Answer.failure (f : Failure) : Answer :=
  .json f.status (Envelope.failure f.code f.message)

def Answer.success (status : Nat) (d : Datum) : Answer :=
  .json status (Envelope.success d)

def Answer.notAllowed (route : Route) : Answer :=
  ⟨405, some route.methods, ""⟩

/-- What concerns accounts, with its failures answered. -/
def forAccounts {α : Type} (m : Attempt AccountError α) : Serving α := do
  match ← .sure m.outcome with
  | .ok a => return a
  | .error e =>
    .sure (noteHidden e.code e.status e.message)
    throw (.failure (.ofAccount e))

/-- What concerns transfers, with its failures answered. -/
def forTransfers {α : Type} (m : Attempt TransferError α) : Serving α := do
  match ← .sure m.outcome with
  | .ok a => return a
  | .error e =>
    .sure (noteHidden e.code e.status e.message)
    throw (.failure (.ofTransfer e))

/-! ### Reading requests -/

def principalHeader : String := "x-principal"

def Request.principal? (r : Request) : Option String := do
  let value ← r.header? principalHeader
  if isPlain value then
    let name := Text.trim value
    if name = "" then none else some name
  else none

def rowNumber (raw : List Char) : Serving Int :=
  match Percent.text? raw with
  | none => throw (.plain 400 "Invalid URL: Invalid UTF-8 in `id`")
  | some cs =>
    match Numeral.readAmount cs with
    | .ok n => return n
    | .error _ =>
      throw (.plain 400 ("Invalid URL: Cannot parse `" ++ String.ofList cs ++ "` to a `i64`"))

/-- Goes on only without complaints. -/
def checked (complaints : List String) : Serving Unit :=
  match complaints with
  | [] => return ()
  | _ => throw (.failure (.badRequest ("\n".intercalate complaints)))

def pageOf (query : List Char) : Serving PageQuery := do
  match PageQuery.read query with
  | .error message => throw (.plain 400 ("Failed to deserialize query string: " ++ message))
  | .ok q =>
    checked q.check
    return q

/-- The words for a fault in a body, with the way to it in front. -/
def bodyFault (path : List Json.Step) (message : String) : String :=
  let way := ".".intercalate (path.map (·.text))
  "Failed to deserialize the JSON body into the target type: " ++
    (if path = [] then message else way ++ ": " ++ message)

/-- The data in the body of a request. The body is not looked at unless it is said to be JSON, and not read unless it
fits. -/
def bodyOf (schema : Schema) (r : Request) : Serving Datum := do
  match r.header? "content-type" with
  | none => throw unsupported
  | some value => if ¬ (isPlain value ∧ MediaType.isJson value) then throw unsupported
  if ¬ r.body.Fits then throw tooLarge
  match Json.read schema r.body.text with
  | .ok d => return d
  | .error .malformed => throw (.plain 400 "Failed to parse the request body as JSON")
  | .error (.mismatch path message) => throw (.plain 422 (bodyFault path message))
where
  unsupported : Answer :=
    .plain 415 "Expected request with `Content-Type: application/json`"
  tooLarge : Answer :=
    .plain 413 "Failed to buffer the request body: length limit exceeded"

/-- The form in the body of a request. -/
def formOf {α : Type} (schema : Schema) (ofDatum? : Datum → Option α) (check : α → List String)
    (r : Request) : Serving α := do
  match ofDatum? (← bodyOf schema r) with
  | some f =>
    checked (check f)
    return f
  | none => throw (.failure (.internal "internal error"))

/-! ### Routes -/

def serveHealth : Serving Answer := do
  match ← .sure Bank.healthCheck.outcome with
  | .ok () =>
    let now ← .sure (.look (·.now))
    return .success 200 (.record [("status", .text "healthy"), ("timestamp_ms", .int now.epochMillis)])
  | .error e =>
    .sure (.note (.healthCheckFailed e))
    throw (.failure (.unavailable "unavailable"))

def serveOpening (principal : String) (r : Request) : Serving Answer := do
  let f ← formOf AccountForm.schema AccountForm.ofDatum? AccountForm.check r
  let a ← forAccounts (Holder.openAccount principal f.currency)
  return .success 201 a.datum

def serveAccounts (principal : String) (query : List Char) : Serving Answer := do
  let q ← pageOf query
  let accounts ← forAccounts (Holder.accounts principal q.number q.size)
  return .success 200 (.list (accounts.map (·.datum)))

def serveAccount (principal : String) (id : List Char) : Serving Answer := do
  let id ← rowNumber id
  let a ← forAccounts (Holder.account principal id)
  return .success 200 a.datum

def serveDeletion (principal : String) (id : List Char) : Serving Answer := do
  let id ← rowNumber id
  forAccounts (Holder.deleteAccount principal id)
  return .success 200 .absent

def serveEntries (principal : String) (id query : List Char) : Serving Answer := do
  let id ← rowNumber id
  let q ← pageOf query
  let entries ← forAccounts (Holder.entries principal id q.number q.size)
  return .success 200 (.list (entries.map (·.datum)))

def serveSubmission (terms : Terms) (principal : String) (r : Request) : Serving Answer := do
  let f ← formOf TransferForm.schema TransferForm.ofDatum? TransferForm.check r
  .sure (.note (.transferRequested principal f.source f.target f.amount))
  let receipt ← forTransfers ((f.request principal).submit terms)
  return .success 201 receipt.datum

def serveTransfer (principal : String) (id : List Char) : Serving Answer := do
  let id ← rowNumber id
  let t ← forTransfers (Transfer.readBy principal id)
  return .success 200 t.datum

def serveRoute (terms : Terms) (principal : String) (r : Request) (query : List Char) :
    Route → Serving Answer
  | .health => serveHealth
  | .accounts => if r.method = "POST" then serveOpening principal r else serveAccounts principal query
  | .account id => if r.method = "DELETE" then serveDeletion principal id else serveAccount principal id
  | .entries id => serveEntries principal id query
  | .transfers => serveSubmission terms principal r
  | .transfer id => serveTransfer principal id

def serve (terms : Terms) (r : Request) : Serving Answer := do
  let (path, query) := pathAndQuery r.target
  let some route := Route.ofPath? path | throw (.plain 404 "")
  let served := decide (r.method ∈ route.methods)
  if route.isPublic then
    if served then serveHealth else throw (.notAllowed route)
  else
    match r.principal? with
    | none =>
      throw { Answer.failure (.unauthorized "Missing authenticated principal") with
        allow := if served then none else some route.methods }
    | some principal =>
      if served then serveRoute terms principal r query route else throw (.notAllowed route)

/-- The answer to a request; `HEAD` is answered without the body. -/
def respond (terms : Terms) (r : Request) : Act Answer := do
  let answer ← match ← (serve terms r).outcome with
    | .ok answer => pure answer
    | .error answer => pure answer
  return if r.method = "HEAD" then { answer with body := "" } else answer

end Teller.Gateway

import Teller.Form.Row

/-!
# Envelopes

Every answer over HTTP is wrapped in an envelope: a code, zero for success, a message, and data. An
envelope without data leaves the field out.
-/

namespace Teller

/-- What an envelope says, and the data in it if there are any. -/
structure Envelope (α : Type) where
  code : Int
  message : String
  data : Option α
deriving Repr, DecidableEq, Inhabited

namespace Envelope

variable {α : Type}

def schema (data : Schema) : Schema :=
  .record "ApiResponse" [
    (.required "code", .int .i32),
    (.required "msg", .text),
    (.omittable "data", .optional data)]

def success (data : Datum) : Datum :=
  .record [("code", .int 0), ("msg", .text "ok"), ("data", data)]

def failure (code : Int) (message : String) : Datum :=
  .record [("code", .int code), ("msg", .text message)]

/-- An envelope, given how its data are written. -/
def datum (f : α → Datum) (e : Envelope α) : Datum :=
  .record (("code", .int e.code) :: ("msg", .text e.message) ::
    match e.data with
    | some a => [("data", f a)]
    | none => [])

/-- An envelope, given how its data are read. -/
def ofDatum? (f : Datum → Option α) (d : Datum) : Option (Envelope α) := do
  let code ← (← d.field? "code").int?
  let message ← (← d.field? "msg").text?
  match d.field? "data" with
  | some data => return ⟨code, message, some (← f data)⟩
  | none => return ⟨code, message, none⟩

end Envelope

end Teller

/-!
# Currencies

The currencies that accounts are held in, and their codes. `ofCode?_code` says that the code
determines the currency.
-/

namespace Teller

inductive Currency where
  | usd
  | eur
  | cad
deriving Repr, DecidableEq, Inhabited

namespace Currency

def code : Currency → String
  | .usd => "USD"
  | .eur => "EUR"
  | .cad => "CAD"

/-- Every currency, once. -/
def all : List Currency :=
  [.usd, .eur, .cad]

/-- The currency of a code; codes are capital. -/
def ofCode? (text : String) : Option Currency :=
  all.find? fun c => c.code = text

def unsupported (text : String) : String :=
  "Unsupported currency: " ++ text

theorem mem_all (c : Currency) : c ∈ all := by
  cases c <;> decide

theorem code_injective {c d : Currency} (h : c.code = d.code) : c = d := by
  revert h
  cases c <;> cases d <;> decide

theorem ofCode?_eq_some_iff {text : String} {c : Currency} : ofCode? text = some c ↔ c.code = text := by
  constructor
  · intro h
    have := List.find?_some h
    simpa using this
  · rintro rfl
    cases c <;> decide

theorem ofCode?_code (c : Currency) : ofCode? c.code = some c :=
  ofCode?_eq_some_iff.2 rfl

end Currency

end Teller

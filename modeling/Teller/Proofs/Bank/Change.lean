import Teller.Proofs.Bank.Announce

/-!
# Changes told in the journal

What the journal tells of the book is read from what stands there: the level of a record, its message and its
fields (`Event.Record.change?`). A change of the book is read back from its announcement
(`Verdict.Announced.change?_record`), and from nothing else (`Event.change?_record_of_mute`).
-/

namespace Teller

/-- A change of the book, as the journal tells it. -/
inductive Change where
  | opened (id : Int) (owner : String) (currency : Currency)
  | removed (id : Int)
  | moved (id source target amount : Int)
deriving Repr, DecidableEq

namespace Event.Record

def int? (r : Record) (name : String) : Option Int :=
  match r.fields.lookup name with
  | some (.int n) => some n
  | _ => none

def text? (r : Record) (name : String) : Option String :=
  match r.fields.lookup name with
  | some (.text s) => some s
  | _ => none

/-- The change that a record tells of, by its message. -/
def change? (r : Record) : Option Change :=
  if r.message = "Account opened" then do
    return .opened (← r.int? "account_id") (← r.text? "owner") (← Currency.ofCode? (← r.text? "currency"))
  else if r.message = "Account deleted" then do
    return .removed (← r.int? "account_id")
  else if r.message = "Transfer committed" then do
    return .moved (← r.int? "transfer_id") (← r.int? "from") (← r.int? "to") (← r.int? "amount")
  else none

end Event.Record

/-- What stands in the journal at level INFO, in its order. -/
def Bank.audit (b : Bank) : List Event.Record :=
  (b.journal.reverse.map Event.record).filter fun r => decide (r.level = .info)

/-- The changes that the journal tells of, in its order. -/
def Bank.told (b : Bank) : List Change :=
  b.audit.filterMap Event.Record.change?

/-- The change that a verdict stands for. -/
def Verdict.change? : Verdict → Option Change
  | .posted r => some (.moved r.transfer.id r.transfer.source r.transfer.target r.transfer.amount)
  | .opened a => some (.opened a.id a.owner a.currency)
  | .removed id => some (.removed id)
  | .failed _ => none

/-! ### Reading events back -/

theorem Event.level_of_announces {e : Event} (h : e.announces = true) : e.level = .info := by
  cases e <;> first | rfl | cases h

/-- Other events tell of no change. -/
theorem Event.change?_record_of_mute {e : Event} (h : e.announces = false) : e.record.change? = none := by
  cases e <;> first | rfl | cases h

/-- A change is read back from its announcement. -/
theorem Verdict.Announced.change?_record {x : Verdict} {e : Event} (h : x.Announced e) :
    e.record.change? = x.change? := by
  cases h with
  | posted r => rfl
  | opened a =>
    show (do return Change.opened a.id a.owner (← Currency.ofCode? a.currency.code)) = _
    rw [Currency.ofCode?_code]
    rfl
  | removed id owner => rfl

/-- A call that has not changed the book has nothing to announce. -/
theorem Stage.Idle.change?_eq_none {g : Stage Verdict} {x : Verdict} (hg : g.Idle) (hx : g.verdict = some x) :
    x.change? = none := by
  obtain ⟨cause, rfl⟩ := hg x hx
  rfl

theorem Verdict.Announced.exists_change? {x : Verdict} {e : Event} (h : x.Announced e) : ∃ c, x.change? = some c := by
  cases h <;> exact ⟨_, rfl⟩

namespace Bank

variable {b b' : Bank} {x : Verdict} {e : Event} {c : Change}

/-- The announcements are all that tells of changes. -/
theorem told_eq (b : Bank) : b.told = b.announced.reverse.filterMap fun e => e.record.change? := by
  rw [told, audit, announced, ← List.filter_reverse, List.filterMap_filter, List.filterMap_filter,
    List.filterMap_map]
  congr 1
  funext e
  have hmute : ¬ e.announces = true → e.record.change? = none := fun h =>
    Event.change?_record_of_mute (Bool.of_not_eq_true h)
  by_cases hannounces : e.announces = true
  · rw [if_pos hannounces]
    exact if_pos (decide_eq_true (Event.level_of_announces hannounces))
  · rw [if_neg hannounces]
    show (if _ then e.record.change? else none) = none
    rw [hmute hannounces, ite_self]

theorem told_of_announced (h : b'.announced = b.announced) : b'.told = b.told := by
  rw [told_eq, told_eq, h]

theorem told_note (hx : x.change? = some c) (he : x.Announced e) :
    told { b with journal := e :: b.journal } = b.told ++ [c] := by
  have hannounced : announced { b with journal := e :: b.journal } = e :: b.announced :=
    List.filter_cons_of_pos he.announces
  rw [told_eq, told_eq, hannounced, List.reverse_cons, List.filterMap_append]
  have hchange : e.record.change? = some c := he.change?_record.trans hx
  simp [hchange]

end Bank

end Teller

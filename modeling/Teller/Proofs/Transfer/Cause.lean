import Teller.Proofs.Gateway.Details
import Teller.Proofs.Transfer.Retryable

/-!
# What lies under failed rollbacks

A unit of work that failed is rolled back, which may fail in its turn, and each attempt wraps the failure that it
was made for. Whatever the attempts failed of, the unit counts as what it failed of first (`WorkError.origin`).
Nothing is left out of the message, which tells that failure and after it what each attempt failed of, the first
attempt first (`WorkError.message_eq`).
-/

namespace Teller

namespace WorkError

variable {w v : WorkError}

/-- The failure that the first rollback was for. -/
def origin : WorkError → WorkError
  | .rollback cause _ => cause.origin
  | w => w

theorem rollbacks_origin (w : WorkError) : w.origin.rollbacks = [] := by
  induction w with
  | rollback _ _ ih => exact ih
  | _ => rfl

/-- The failure after attempts to roll back that failed too, the first attempt first. -/
def rolledBack (cause : WorkError) (failures : List StoreError) : WorkError :=
  failures.foldl .rollback cause

theorem origin_rolledBack (cause : WorkError) (failures : List StoreError) :
    (cause.rolledBack failures).origin = cause.origin := by
  induction failures generalizing cause with
  | nil => rfl
  | cons e failures ih => exact ih (cause.rollback e)

theorem rollbacks_rolledBack (cause : WorkError) (failures : List StoreError) :
    (cause.rolledBack failures).rollbacks = failures.reverse ++ cause.rollbacks := by
  induction failures generalizing cause with
  | nil => rfl
  | cons e failures ih =>
    calc (cause.rolledBack (e :: failures)).rollbacks
      _ = failures.reverse ++ e :: cause.rollbacks := ih (cause.rollback e)
      _ = (e :: failures).reverse ++ cause.rollbacks := by simp

/-! ### What a unit counts as -/

/-- The units are told apart neither by what they failed of in the store, nor by a deadline, nor by what a transfer
that fails of them is answered with, nor by whether it may be sent again. -/
structure CountsAs (w v : WorkError) : Prop where
  storeError?_eq : w.storeError? = v.storeError?
  pastDeadline_iff : w.PastDeadline ↔ v.PastDeadline
  code_eq : (TransferError.work w).code = (TransferError.work v).code
  status_eq : (TransferError.work w).status = (TransferError.work v).status
  retryable_iff : (TransferError.work w).Retryable ↔ (TransferError.work v).Retryable

theorem pastDeadline_congr (h : w.storeError? = v.storeError?) : w.PastDeadline ↔ v.PastDeadline := by
  rw [pastDeadline_iff_storeError?_eq_none, pastDeadline_iff_storeError?_eq_none, h]

theorem code_congr (h : w.storeError? = v.storeError?) :
    (TransferError.work w).code = (TransferError.work v).code := by
  cases hv : v.storeError? with
  | none =>
    rw [code_of_pastDeadline (pastDeadline_iff_storeError?_eq_none.2 hv),
      code_of_pastDeadline (pastDeadline_iff_storeError?_eq_none.2 (h.trans hv))]
  | some s => rw [code_of_storeError? hv, code_of_storeError? (h.trans hv)]

/-- What a unit failed of in the store decides all the rest: with nothing of that sort, it was a deadline. -/
theorem CountsAs.of_storeError? (h : w.storeError? = v.storeError?) : w.CountsAs v where
  storeError?_eq := h
  pastDeadline_iff := pastDeadline_congr h
  code_eq := code_congr h
  status_eq := congrArg TransferError.statusOfCode (code_congr h)
  retryable_iff := by simp only [TransferError.Retryable, pastDeadline_congr h, h]

theorem storeError?_origin (w : WorkError) : w.origin.storeError? = w.storeError? := by
  induction w with
  | rollback _ _ ih => exact ih
  | _ => rfl

/-! ### What the message tells -/

/-- The text stands in the message. -/
def Tells (w : WorkError) (text : String) : Prop :=
  text.toList <:+: w.message.toList

theorem message_rollback (cause : WorkError) (e : StoreError) :
    (cause.rollback e).message = "tx err: " ++ cause.message ++ "; rb err: " ++ e.message :=
  rfl

/-- Around the first failure stand an opening for each attempt to roll back and then what the attempts failed of. -/
theorem message_eq (w : WorkError) :
    w.message.toList =
      w.rollbacks.flatMap (fun _ => "tx err: ".toList) ++ w.origin.message.toList ++
        w.rollbacks.reverse.flatMap fun e => "; rb err: ".toList ++ e.message.toList := by
  induction w with
  | rollback cause e ih =>
    rw [message_rollback, String.toList_append, String.toList_append, String.toList_append, ih]
    simp only [rollbacks, origin, List.flatMap_cons, List.reverse_cons, List.flatMap_append, List.flatMap_nil,
      List.append_assoc, List.append_nil]
  | _ => simp [rollbacks, origin]

theorem infix_message_work (w : WorkError) : w.message.toList <:+: (TransferError.work w).message.toList := by
  have hmessage : (TransferError.work w).message = "Transfer failed: " ++ w.message := rfl
  rw [hmessage, String.toList_append]
  exact (List.suffix_append _ _).isInfix

theorem tells_origin (w : WorkError) : w.Tells w.origin.message := by
  rw [Tells, message_eq w]
  exact List.infix_append _ _ _

theorem tells_rollback {e : StoreError} (h : e ∈ w.rollbacks) : w.Tells e.message := by
  have hpart : e.message.toList <:+: w.rollbacks.reverse.flatMap fun e => "; rb err: ".toList ++ e.message.toList := by
    obtain ⟨before, after, heq⟩ := List.append_of_mem (List.mem_reverse.2 h)
    rw [heq, List.flatMap_append, List.flatMap_cons, List.append_assoc]
    exact (List.prefix_append _ _).isInfix.trans
      ((List.suffix_append _ _).isInfix.trans (List.suffix_append _ _).isInfix)
  rw [Tells, message_eq w]
  exact hpart.trans (List.suffix_append _ _).isInfix

/-- However many attempts to roll it back have failed, and of whatever, a unit of work counts as what it failed of
first, and the message tells that failure and all the others. -/
theorem origin_outlasts_rollbacks (cause : WorkError) (failures : List StoreError) :
    cause.origin.rollbacks = [] ∧
    (cause.rolledBack failures).CountsAs cause.origin ∧
    (cause.rolledBack failures).Tells cause.origin.message ∧
    (∀ e ∈ failures ++ cause.rollbacks, (cause.rolledBack failures).Tells e.message) ∧
    (cause.rolledBack failures).message.toList <:+:
      (TransferError.work (cause.rolledBack failures)).message.toList := by
  refine ⟨rollbacks_origin cause, .of_storeError? ?_, ?_, fun e he => tells_rollback ?_,
    infix_message_work _⟩
  · rw [← origin_rolledBack cause failures, storeError?_origin]
  · have h := tells_origin (cause.rolledBack failures)
    rwa [origin_rolledBack] at h
  · rw [rollbacks_rolledBack]
    simpa using he

/-- Missing funds are reported as such, although rolling back has failed twice: first of a lock that was waited for
in vain, which could have been tried again, and then of a row that was not there. -/
theorem funds_missing_under_rollbacks :
    let cause := WorkError.aborted (.insufficientFunds 1 0 (-5))
    let failures := [StoreError.lockTimeout 1, .notFound "account" 2]
    (StoreError.lockTimeout 1 ∈ failures ++ cause.rollbacks) ∧
    (TransferError.work (cause.rolledBack failures)).status = 422 ∧
    ¬ (TransferError.work (cause.rolledBack failures)).Retryable ∧
    (cause.rolledBack failures).Tells (StoreError.lockTimeout 1).message := by
  intro cause failures
  have hmem : StoreError.lockTimeout 1 ∈ failures ++ cause.rollbacks := by decide
  obtain ⟨-, hcounts, -, htells, -⟩ := origin_outlasts_rollbacks cause failures
  refine ⟨hmem, ?_, ?_, htells _ hmem⟩
  · rw [hcounts.status_eq]
    decide
  · rw [hcounts.retryable_iff]
    decide

end WorkError

end Teller

import Teller.Transfer.Error

/-!
# What may be sent again

The code of a failure, and with it the status, is read off the innermost cause: contention for rows is a
conflict and a deadline that has passed is a time-out, however often an attempt to roll back has failed on top
of it. Only units of work are classified so: a failure of a read, which no unit of work wraps, is a failure of
the database whatever it is.
-/

namespace Teller

namespace StoreError

variable {s : StoreError}

theorem storeCode?_of_retryable (h : s.Retryable) : TransferError.storeCode? s = some "CONFLICT" := by
  cases s with
  | lockTimeout | conflict => rfl
  | _ => exact h.elim

theorem storeCode?_eq_conflict : TransferError.storeCode? s = some "CONFLICT" ↔ s.Retryable := by
  refine ⟨fun h => ?_, storeCode?_of_retryable⟩
  unfold TransferError.storeCode? at h
  split at h
  · exact absurd (Option.some.inj h) (by decide)
  · exact absurd (Option.some.inj h) (by decide)
  · split at h
    · assumption
    · cases h

/-- The store knows nothing of deadlines. -/
theorem storeCode?_ne_timeout : TransferError.storeCode? s ≠ some "TIMEOUT" := by
  unfold TransferError.storeCode?
  split
  · decide
  · decide
  · split <;> decide

end StoreError

namespace WorkError

variable {w : WorkError}

/-- A unit of work has failed either of the store or of its deadline: by induction on the failed attempts to
roll it back. -/
theorem pastDeadline_iff_storeError?_eq_none : w.PastDeadline ↔ w.storeError? = none := by
  induction w with
  | opening | aborted | commit => exact ⟨False.elim, fun h => nomatch h⟩
  | deadlineExceeded => exact ⟨fun _ => rfl, fun _ => trivial⟩
  | rollback cause _ ih => exact ih

/-- The code of a unit of work that has failed. -/
theorem code_of_storeError? {s : StoreError} (h : w.storeError? = some s) :
    (TransferError.work w).code = (TransferError.storeCode? s).getD "TRANSFER_FAILED" := by
  have hpast : ¬ w.PastDeadline := by
    rw [pastDeadline_iff_storeError?_eq_none, h]
    exact fun h => nomatch h
  unfold TransferError.code
  simp only [h, Option.bind_some, if_neg hpast]
  cases TransferError.storeCode? s <;> rfl

theorem code_of_pastDeadline (h : w.PastDeadline) : (TransferError.work w).code = "TIMEOUT" := by
  unfold TransferError.code
  simp only [pastDeadline_iff_storeError?_eq_none.1 h, Option.bind_none, if_pos h]

theorem code_eq_conflict_iff :
    (TransferError.work w).code = "CONFLICT" ↔ ∃ s ∈ w.storeError?, s.Retryable := by
  cases hs : w.storeError? with
  | none =>
    rw [code_of_pastDeadline (pastDeadline_iff_storeError?_eq_none.2 hs)]
    simp
  | some s =>
    have hcode : (TransferError.storeCode? s).getD "TRANSFER_FAILED" = "CONFLICT" ↔
        TransferError.storeCode? s = some "CONFLICT" := by
      cases TransferError.storeCode? s <;> simp
    rw [code_of_storeError? hs, hcode, StoreError.storeCode?_eq_conflict]
    simp

theorem code_eq_timeout_iff : (TransferError.work w).code = "TIMEOUT" ↔ w.PastDeadline := by
  refine ⟨fun h => ?_, code_of_pastDeadline⟩
  rw [pastDeadline_iff_storeError?_eq_none, Option.eq_none_iff_forall_ne_some]
  intro s hs
  rw [code_of_storeError? hs] at h
  have hnot := StoreError.storeCode?_ne_timeout (s := s)
  cases hcode : TransferError.storeCode? s with
  | none => simp [hcode] at h
  | some c => simp_all

end WorkError

namespace TransferError

variable {code : String}

theorem statusOfCode_eq_conflict : statusOfCode code = 409 ↔ code = "CONFLICT" := by
  refine ⟨fun h => ?_, fun h => h ▸ rfl⟩
  unfold statusOfCode at h
  split at h <;> first | rfl | exact absurd h (by decide)

theorem statusOfCode_eq_timeout : statusOfCode code = 504 ↔ code = "TIMEOUT" := by
  refine ⟨fun h => ?_, fun h => h ▸ rfl⟩
  unfold statusOfCode at h
  split at h <;> first | rfl | exact absurd h (by decide)

/-- Code and status agree on what may be sent again: it is what a unit of work has failed of through contention
or through its deadline, however deep that lies. The failures called retryable are these and, besides them,
contention met outside of a unit of work, which the code and the status give as a failure of the database. -/
theorem retryable_iff_code_or_store (e : TransferError) :
    (e.code = "CONFLICT" ↔ e.status = 409) ∧
    (e.code = "TIMEOUT" ↔ e.status = 504) ∧
    (e.Retryable ↔ (e.code = "CONFLICT" ∨ e.code = "TIMEOUT") ∨ ∃ s, e = .store s ∧ s.Retryable) ∧
    (∀ s, e = .store s → e.code = "DATABASE_ERROR" ∧ e.status = 500) := by
  refine ⟨statusOfCode_eq_conflict.symm, statusOfCode_eq_timeout.symm, ?_, ?_⟩
  · cases e with
    | work w =>
      rw [WorkError.code_eq_conflict_iff, WorkError.code_eq_timeout_iff]
      simp [Retryable, or_comm]
    | store s => simp [Retryable, code]
    | _ => simp [Retryable, code]
  · rintro s rfl
    exact ⟨rfl, rfl⟩

/-- A lock that a read waits for in vain may be asked for again, yet is reported as a failure of the database. -/
theorem not_forall_retryable_iff_status : ¬ ∀ e : TransferError,
    (e.Retryable ↔ e.code = "CONFLICT" ∨ e.code = "TIMEOUT") ∧
      (e.code = "CONFLICT" ∨ e.code = "TIMEOUT" ↔ e.status = 409 ∨ e.status = 504) := by
  intro h
  exact absurd (h (.store (.lockTimeout 1))) (by decide)

/-- A time-out stays one through two attempts to roll it back that have failed. -/
example : (work (.rollback (.rollback (.deadlineExceeded .zero) (.lockTimeout 1)) (.injected "ROLLBACK"))).status =
    504 := by
  decide

end TransferError

end Teller

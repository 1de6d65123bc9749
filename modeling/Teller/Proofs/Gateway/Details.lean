import Teller.Gateway.Failure
import Teller.Proofs.Transfer.Retryable

/-!
# Details of failures of the store

What a backend reports, and the point at which a failure was asked for, are details of the store. They never
decide the status and the code that a failed request is answered with. The message gives them away in one case:
a unit of work failed of something that the requester is told, and rolling it back failed as well.
-/

namespace Teller

/-! ### Failures with other details -/

/-- The failure carries details of the store. -/
def StoreError.Detailed : StoreError → Prop
  | .database _ => True
  | .injected _ => True
  | _ => False

/-- The same failure, up to the details it carries. -/
inductive StoreError.Resembles : StoreError → StoreError → Prop
  | same (e : StoreError) : e.Resembles e
  | database (report report' : BackendError) : Resembles (.database report) (.database report')
  | injected (point point' : String) : Resembles (.injected point) (.injected point')

/-- The same failure, up to the details of each failure of the store in it. -/
inductive WorkError.Resembles : WorkError → WorkError → Prop
  | opening {e e' : StoreError} : e.Resembles e' → Resembles (.opening e) (.opening e')
  | aborted {e e' : StoreError} : e.Resembles e' → Resembles (.aborted e) (.aborted e')
  | deadlineExceeded (limit : Time.Span) : Resembles (.deadlineExceeded limit) (.deadlineExceeded limit)
  | rollback {w w' : WorkError} {e e' : StoreError} :
    w.Resembles w' → e.Resembles e' → Resembles (.rollback w e) (.rollback w' e')
  | commit {e e' : StoreError} : e.Resembles e' → Resembles (.commit e) (.commit e')

inductive TransferError.Resembles : TransferError → TransferError → Prop
  | same (f : TransferError) : f.Resembles f
  | store {e e' : StoreError} : e.Resembles e' → Resembles (.store e) (.store e')
  | work {w w' : WorkError} : w.Resembles w' → Resembles (.work w) (.work w')

inductive AccountError.Resembles : AccountError → AccountError → Prop
  | same (f : AccountError) : f.Resembles f
  | store {e e' : StoreError} : e.Resembles e' → Resembles (.store e) (.store e')

variable {e e' : StoreError} {w w' : WorkError}

theorem StoreError.Resembles.eq_of_not_detailed (h : e.Resembles e') (hd : ¬ e.Detailed) : e' = e := by
  cases h with
  | same => rfl
  | database => exact absurd trivial hd
  | injected => exact absurd trivial hd

theorem StoreError.Resembles.storeCode?_eq (h : e.Resembles e') :
    TransferError.storeCode? e' = TransferError.storeCode? e := by
  cases h <;> rfl

theorem StoreError.Detailed.storeCode?_eq_none (h : e.Detailed) : TransferError.storeCode? e = none := by
  cases e with
  | database => rfl
  | injected => rfl
  | _ => exact h.elim

namespace WorkError

/-- The failures of rolling back, outermost first. -/
def rollbacks : WorkError → List StoreError
  | .rollback cause e => e :: cause.rollbacks
  | _ => []

namespace Resembles

theorem pastDeadline_iff (h : w.Resembles w') : w'.PastDeadline ↔ w.PastDeadline := by
  induction h with
  | rollback _ _ ih => exact ih
  | _ => exact Iff.rfl

theorem storeCode?_eq (h : w.Resembles w') :
    w'.storeError?.bind TransferError.storeCode? = w.storeError?.bind TransferError.storeCode? := by
  induction h with
  | opening he => exact he.storeCode?_eq
  | aborted he => exact he.storeCode?_eq
  | deadlineExceeded => rfl
  | rollback _ _ ih => exact ih
  | commit he => exact he.storeCode?_eq

/-- Without details there is only one such failure. -/
theorem eq_of_not_detailed (h : w.Resembles w') (hblame : ∀ e ∈ w.storeError?, ¬ e.Detailed)
    (hrollbacks : ∀ e ∈ w.rollbacks, ¬ e.Detailed) : w' = w := by
  induction h with
  | opening he => rw [he.eq_of_not_detailed (hblame _ rfl)]
  | aborted he => rw [he.eq_of_not_detailed (hblame _ rfl)]
  | deadlineExceeded => rfl
  | rollback _ he ih =>
    rw [he.eq_of_not_detailed (hrollbacks _ List.mem_cons_self),
      ih hblame fun r hr => hrollbacks r (List.mem_cons_of_mem _ hr)]
  | commit he => rw [he.eq_of_not_detailed (hblame _ rfl)]

end Resembles

end WorkError

/-! ### Telling details anew -/

/-- The failure with the text for its details. -/
def StoreError.retold (text : String) : StoreError → StoreError
  | .database _ => .database (.protocol text)
  | .injected _ => .injected text
  | e => e

/-- The failure with the text for the details of each failure of the store in it. -/
def WorkError.retold (text : String) : WorkError → WorkError
  | .opening e => .opening (e.retold text)
  | .aborted e => .aborted (e.retold text)
  | .deadlineExceeded limit => .deadlineExceeded limit
  | .rollback cause e => .rollback (cause.retold text) (e.retold text)
  | .commit e => .commit (e.retold text)

theorem StoreError.resembles_retold (e : StoreError) (text : String) : e.Resembles (e.retold text) := by
  cases e with
  | database => exact .database _ _
  | injected => exact .injected _ _
  | _ => exact .same _

theorem WorkError.resembles_retold (w : WorkError) (text : String) : w.Resembles (w.retold text) := by
  induction w with
  | opening e => exact .opening (e.resembles_retold text)
  | aborted e => exact .aborted (e.resembles_retold text)
  | deadlineExceeded => exact .deadlineExceeded _
  | rollback _ e ih => exact .rollback ih (e.resembles_retold text)
  | commit e => exact .commit (e.resembles_retold text)

theorem length_le_append_left (s t : String) : s.length ≤ (s ++ t).length := by
  rw [String.length_append]
  exact Nat.le_add_right ..

theorem length_le_append_right (s t : String) : t.length ≤ (s ++ t).length := by
  rw [String.length_append]
  exact Nat.le_add_left ..

theorem StoreError.Detailed.length_le_message (h : e.Detailed) (text : String) :
    text.length ≤ (e.retold text).message.length := by
  cases e with
  | database => exact Nat.le_trans (length_le_append_right _ text) (length_le_append_right _ _)
  | injected => exact length_le_append_right _ text
  | _ => exact h.elim

/-- The message tells the details of each rollback that failed. -/
theorem WorkError.length_le_message_of_rollbacks (h : ∃ e ∈ w.rollbacks, e.Detailed) (text : String) :
    text.length ≤ (w.retold text).message.length := by
  induction w with
  | rollback cause e ih =>
    obtain ⟨r, hr, hd⟩ := h
    rcases List.mem_cons.1 hr with rfl | hr
    · exact Nat.le_trans (hd.length_le_message text) (length_le_append_right _ _)
    · calc text.length
        _ ≤ (cause.retold text).message.length := ih ⟨r, hr, hd⟩
        _ ≤ ("tx err: " ++ (cause.retold text).message).length := length_le_append_right _ _
        _ ≤ _ := length_le_append_left _ _
        _ ≤ _ := length_le_append_left _ _
  | _ =>
    obtain ⟨_, hr, -⟩ := h
    cases hr

namespace TransferError

variable {f f' : TransferError}

/-- The message that the requester gets tells details of a failed rollback: the failure that led to the rollback
is one that the requester is told. -/
def Leaks : TransferError → Prop
  | .work w => ¬ Gateway.Failure.Hidden (TransferError.work w).status ∧ ∃ e ∈ w.rollbacks, e.Detailed
  | _ => False

/-- Details decide neither the code nor, by the code, the status. -/
theorem Resembles.code_eq (h : f.Resembles f') : f'.code = f.code := by
  cases h with
  | same => rfl
  | store => rfl
  | work h => simp only [code, h.storeCode?_eq, h.pastDeadline_iff]

theorem Resembles.status_eq (h : f.Resembles f') : f'.status = f.status :=
  congrArg statusOfCode h.code_eq

/-- Work that failed of a detailed failure of the store is the server's own failure. -/
theorem hidden_of_detailed (he : w.storeError? = some e) (hd : e.Detailed) :
    Gateway.Failure.Hidden (work w).status := by
  have hcode : (work w).code = "TRANSFER_FAILED" := by
    rw [WorkError.code_of_storeError? he, hd.storeCode?_eq_none, Option.getD_none]
  rw [status, hcode]
  decide

end TransferError

namespace Gateway.Failure

theorem ofTransfer_of_hidden {f : TransferError} (h : Hidden f.status) :
    ofTransfer f = internal "internal error" :=
  if_pos h

theorem message_ofTransfer {f : TransferError} (h : ¬ Hidden f.status) : (ofTransfer f).message = f.message := by
  rw [ofTransfer, ofCode, if_neg h]

theorem ofAccount_eq_of_resembles {f f' : AccountError} (h : f.Resembles f') : ofAccount f' = ofAccount f := by
  cases h <;> rfl

theorem ofTransfer_eq_of_not_leaks {f f' : TransferError} (h : f.Resembles f') (hl : ¬ f.Leaks) :
    ofTransfer f' = ofTransfer f := by
  by_cases hh : Hidden f.status
  · rw [ofTransfer_of_hidden hh, ofTransfer_of_hidden (by rwa [h.status_eq])]
  cases h with
  | same => rfl
  | store => exact absurd (show Hidden 500 by decide) hh
  | work h =>
    have hblame : ∀ e ∈ WorkError.storeError? _, ¬ e.Detailed := fun e he hd =>
      hh (TransferError.hidden_of_detailed he hd)
    rw [h.eq_of_not_detailed hblame fun e he hd => hl ⟨hh, e, he, hd⟩]

/-- A detail that is longer than the whole message cannot have been told. -/
theorem exists_ofTransfer_ne_of_leaks {f : TransferError} (h : f.Leaks) :
    ∃ f', f.Resembles f' ∧ ofTransfer f' ≠ ofTransfer f := by
  cases f with
  | work w =>
    obtain ⟨hh, hd⟩ := h
    let text := w.message ++ "+"
    have hw := w.resembles_retold text
    have hf : (TransferError.work w).Resembles (.work (w.retold text)) := .work hw
    refine ⟨_, hf, fun heq => ?_⟩
    have hmessage := congrArg message heq
    rw [message_ofTransfer hh, message_ofTransfer (by rwa [hf.status_eq])] at hmessage
    have hlength : ∀ v : WorkError,
        (TransferError.work v).message.length = "Transfer failed: ".length + v.message.length :=
      fun _ => String.length_append ..
    have hsame : (w.retold text).message.length = w.message.length :=
      Nat.add_left_cancel ((hlength _).symm.trans ((congrArg String.length hmessage).trans (hlength _)))
    have hlt : w.message.length < text.length := by
      simp only [text, String.length_append]
      exact Nat.lt_add_of_pos_right (by decide)
    have hle := WorkError.length_le_message_of_rollbacks hd text
    omega
  | _ => exact h.elim

/-- Details of the store decide no status and no code. They are in the message exactly if a unit of work failed of
something that the requester is told, such as a deadline or missing funds, and its rollback failed with
details. -/
theorem details_told_iff_leaks (a : AccountError) (f : TransferError) :
    (∀ a', a.Resembles a' → ofAccount a' = ofAccount a) ∧
      (∀ f', f.Resembles f' →
        (ofTransfer f').status = (ofTransfer f).status ∧ (ofTransfer f').code = (ofTransfer f).code) ∧
      ((∀ f', f.Resembles f' → ofTransfer f' = ofTransfer f) ↔ ¬ f.Leaks) := by
  refine ⟨fun a' h => ofAccount_eq_of_resembles h, fun f' h => ?_, fun h hl => ?_, fun hl f' h => ?_⟩
  · simp only [ofTransfer, ofCode, h.status_eq, h.code_eq]
    split <;> exact ⟨rfl, rfl⟩
  · obtain ⟨f', hf', hne⟩ := exists_ofTransfer_ne_of_leaks hl
    exact hne (h f' hf')
  · exact ofTransfer_eq_of_not_leaks h hl

/-- Funds are missing, and the connection is lost before the unit is rolled back. -/
theorem not_forall_details_hidden :
    ¬ ∀ f f' : TransferError, f.Resembles f' → ofTransfer f' = ofTransfer f := by
  intro h
  have hf : TransferError.Resembles
      (.work (.rollback (.aborted (.insufficientFunds 1 0 (-5))) (.database (.protocol "secret"))))
      (.work (.rollback (.aborted (.insufficientFunds 1 0 (-5))) (.database (.protocol "")))) :=
    .work (.rollback (.aborted (.same _)) (.database _ _))
  exact absurd (h _ _ hf) (by decide)

end Gateway.Failure

end Teller

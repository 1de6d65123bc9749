import Teller.Proofs.Ledger.Conservation

/-!
# Floors of balances

Where no call may pay a balance below zero, no account is ever paid below zero: an account that is below
zero was opened below zero, and has not become any worse since. The floor is checked on a staged row, in
the unit of work that publishes it, and the row is locked from the check to the publication; in the one
step in which an order is carried out, its accounts are therefore paid from the committed balances
(`Order.Posts`), and the check is one of these.
-/

namespace Teller

/-- No account is below zero, or below what it was opened with if that is less. -/
def Book.Floored (opening : Int → Int) (b : Book) : Prop :=
  ∀ k a, b.accounts.get? k = some a → min 0 (opening k) ≤ a.balance

variable {b b' : Book} {f f' : Int → Int} {balance id : Int} {a x y : Account} {o : Order} {r : Receipt}

/-- What pays without an overdraft is not below zero afterwards. -/
theorem Order.Posts.source_nonneg (h : o.Posts false r b b')
    (hid : ∀ {k a}, b.accounts.get? k = some a → a.id = k) : 0 ≤ r.sourceAccount.balance := by
  have hamount := h.amount
  have hsee : ∀ k x, b.account k = .ok x → x.id = k := fun k x hx => hid (Book.account_eq_ok_iff.1 hx)
  obtain ⟨hdebit, -⟩ := (Order.adjust_eq_ok_iff h.distinct hsee).1 h.adjust
  obtain ⟨x, -, hadd⟩ := Adjustment.of_apply_ok hdebit
  obtain ⟨hx, -, hfloor⟩ := Account.add_eq_ok_iff.1 hadd
  have hdelta : o.debit.delta < 0 := by
    show -o.amount < 0
    omega
  rw [hx]
  exact hfloor (by simp [hdelta])

namespace Book.Floored

theorem empty : Floored f .empty := by
  intro k a ha
  cases ha

theorem post (h : b.Floored f) (hid : ∀ {k a}, b.accounts.get? k = some a → a.id = k)
    (hp : o.Posts false r b b') : b'.Floored f := by
  obtain ⟨x, y, hx, hy, -, hry⟩ := hp.accounts hid
  intro k a ha
  rw [hp.get? hid] at ha
  by_cases htarget : o.target = k
  · -- what is paid only rises
    rw [if_pos htarget] at ha
    cases ha
    have hold := h _ y hy
    have hamount := hp.amount
    rw [htarget] at hold
    rw [hry]
    show min 0 (f k) ≤ y.balance + o.amount
    omega
  rw [if_neg htarget] at ha
  by_cases hsource : o.source = k
  · rw [if_pos hsource] at ha
    cases ha
    have hfloor := hp.source_nonneg hid
    omega
  · rw [if_neg hsource] at ha
    exact h k a ha

theorem opens (h : b.Floored f) (ho : b.Opens balance a b')
    (hf : ∀ k, f' k = if k = a.id then balance else f k) : b'.Floored f' := by
  intro k x hx
  rw [ho.book] at hx
  rw [hf]
  rcases Table.get?_put_eq_some_iff.1 hx with ⟨rfl, rfl⟩ | ⟨hk, hx⟩
  · rw [if_pos rfl, ho.balance]
    omega
  · rw [if_neg hk]
    exact h k x hx

theorem removes (h : b.Floored f) (hr : b.Removes id b') : b'.Floored f := by
  intro k x hx
  rw [hr.book] at hx
  exact h k x (Table.get?_erase_eq_some_iff.1 hx).2

theorem kept : Kept (fun c => c.overdraft = false) fun f b => b.Floored f := by
  constructor
  case post =>
    intro c f b b' o r hc hid hp hb
    rw [hc] at hp
    exact hb.post hid hp
  case opens => exact fun ho hf hb => hb.opens ho hf
  case removes => exact fun hr hb => hb.removes hr

end Book.Floored

/-- If no call may pay a balance below zero, no account is below zero that was not opened below zero, and
none is below what it was opened with. -/
theorem no_overdraft {patience : Time.Span} {now : Time.Instant} {h : List (Happening Call)}
    {w : Traffic Call Reply} (hr : Traffic.Run Call.act (Bank.new patience now) h w)
    (hcalls : ∀ n c, .arrival n c ∈ h → c.overdraft = false)
    (ha : a ∈ w.bank.store.book.accounts.values) : min 0 (opening h a.id) ≤ a.balance := by
  obtain ⟨stage, hw, -⟩ := hr.balanced
  obtain ⟨k, hk⟩ := Table.mem_values.1 ha
  rw [(Store.Sound.account hw.inv hk).1]
  exact hr.keeps Book.Floored.kept Book.Floored.empty hcalls k a hk

/-- Of two payments of 60 from an account with 100 the second is refused; the account that is paid was
opened below zero. -/
theorem no_overdraft_second_debit : ∃ h w,
    Traffic.Run Call.act (Bank.new (.millis 5000) .epoch) h w ∧
    (∀ n c, .arrival n c ∈ h → c.overdraft = false) ∧
    w.bank.store.book.accounts.values = [⟨1, "ann", 40, .cad, .epoch⟩, ⟨2, "bob", -30, .cad, .epoch⟩] ∧
    min 0 (opening h 1) ≤ 40 ∧ min 0 (opening h 2) ≤ -30 := by
  have hr : Traffic.Run Call.act (.new (.millis 5000) .epoch) [] (.quiet _) := .start
  obtain ⟨h₁, w₁, hr₁, hb₁, -, harr₁⟩ := hr.alone_arrivals (.createAccount "ann" 100 .cad)
  obtain ⟨h₂, w₂, hr₂, hb₂, -, harr₂⟩ := hr₁.alone_arrivals (.createAccount "bob" (-90) .cad)
  obtain ⟨h₃, w₃, hr₃, hb₃, -, harr₃⟩ := hr₂.alone_arrivals (.transfer ⟨1, 2, 60⟩ ⟨false, none⟩)
  obtain ⟨h₄, w₄, hr₄, hb₄, -, harr₄⟩ := hr₃.alone_arrivals (.transfer ⟨1, 2, 60⟩ ⟨false, none⟩)
  have hcalls : ∀ n c, .arrival n c ∈ h₄ → c.overdraft = false := by
    intro n c hc
    rcases harr₄ n c hc with rfl | hc
    · rfl
    rcases harr₃ n c hc with rfl | hc
    · rfl
    rcases harr₂ n c hc with rfl | hc
    · rfl
    rcases harr₁ n c hc with rfl | hc
    · rfl
    · cases hc
  have hvalues : w₄.bank.store.book.accounts.values =
      [⟨1, "ann", 40, .cad, .epoch⟩, ⟨2, "bob", -30, .cad, .epoch⟩] := by
    rw [hb₄, hb₃, hb₂, hb₁]
    rfl
  refine ⟨h₄, w₄, hr₄, hcalls, hvalues, ?_, ?_⟩
  · exact no_overdraft (a := ⟨1, "ann", 40, .cad, .epoch⟩) hr₄ hcalls (by simp [hvalues])
  · exact no_overdraft (a := ⟨2, "bob", -30, .cad, .epoch⟩) hr₄ hcalls (by simp [hvalues])

end Teller

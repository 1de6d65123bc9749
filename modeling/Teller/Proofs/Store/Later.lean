import Teller.Proofs.Store.Gone

/-!
# Later stores

`Store.Precedes` relates a store to any later one: committed entries and transfers stay as they are, an
account keeps everything but its balance until it is removed, and what is gone stays gone. Every step of
a sound store keeps to it (`Move.precedes`), so whoever has seen an account once may rely on its owner
and its currency for as long as it is there (`Remembers`).
-/

namespace Teller.Store

variable {w : Option Int} {s s' s'' : Store} {u k : Int} {d : Draft} {a b : Account}

/-- The account of the number is this one but for the balance, unless it is gone. -/
def Remembers (s : Store) (k : Int) (a : Account) : Prop :=
  s.Gone k ∨ ∃ x, s.book.accounts.get? k = some { a with balance := x }

structure Precedes (s s' : Store) : Prop where
  account : ∀ {k a}, s.book.accounts.get? k = some a → s'.Remembers k a
  entry : ∀ {k e}, s.book.entries.get? k = some e → s'.book.entries.get? k = some e
  transfer : ∀ {k t}, s.book.transfers.get? k = some t → s'.book.transfers.get? k = some t
  gone : ∀ {k}, s.Gone k → s'.Gone k

theorem Remembers.of_get? (ha : s.book.accounts.get? k = some a) : s.Remembers k a :=
  .inr ⟨a.balance, ha⟩

theorem Remembers.get? (h : s.Remembers k a) (hb : s.book.accounts.get? k = some b) :
    ∃ x, b = { a with balance := x } := by
  rcases h with hgone | ⟨x, hx⟩
  · have hnone := hgone.book
    simp [hb] at hnone
  · rw [hb] at hx
    exact ⟨x, Option.some.inj hx⟩

namespace Precedes

theorem remembers (h : s.Precedes s') (ha : s.Remembers k a) : s'.Remembers k a := by
  rcases ha with hgone | ⟨x, hx⟩
  · exact .inl (h.gone hgone)
  · have hlater := h.account hx
    exact hlater

theorem refl (s : Store) : s.Precedes s :=
  ⟨.of_get?, fun h => h, fun h => h, fun h => h⟩

theorem trans (h : s.Precedes s') (h' : s'.Precedes s'') : s.Precedes s'' where
  account ha := h'.remembers (h.account ha)
  entry he := h'.entry (h.entry he)
  transfer ht := h'.transfer (h.transfer ht)
  gone hk := h'.gone (h.gone hk)

theorem of_book (hbook : s'.book = s.book) (hgone : ∀ {k}, s.Gone k → s'.Gone k) : s.Precedes s' where
  account ha := .of_get? (hbook ▸ ha)
  entry he := hbook ▸ he
  transfer ht := hbook ▸ ht
  gone := hgone

end Precedes

/-- Publishing a draft adds rows, and changes nothing of an account but its balance. -/
theorem Sound.precedes_publish (h : s.Sound) (hu : s.drafts.get? u = some d)
    (hgone : ∀ {k}, s.Gone k → Gone k { s.discard u with book := d.publish s.book }) :
    s.Precedes { s.discard u with book := d.publish s.book } := by
  have hd := h.draft hu
  refine ⟨fun {k a} ha => .inr ?_, fun he => hd.publish_entry.2 (.inr he),
    fun ht => hd.publish_transfer.2 (.inr ht), hgone⟩
  show ∃ x, (d.publish s.book).accounts.get? k = some { a with balance := x }
  rw [hd.publish_account, Draft.account?]
  cases hk : d.accounts.get? k with
  | none => exact ⟨a.balance, ha⟩
  | some b =>
    obtain ⟨-, x, rfl⟩ := hd.original hk ha
    exact ⟨x, rfl⟩

theorem Sound.precedes_erase (h : s.Sound) (hk : s.Free none k)
    (hgone : ∀ {j}, s.Gone j →
      Gone j { s with book := { s.book with accounts := s.book.accounts.erase k } }) :
    s.Precedes { s with book := { s.book with accounts := s.book.accounts.erase k } } := by
  refine ⟨fun {j a} ha => ?_, fun he => he, fun ht => ht, hgone⟩
  by_cases hjk : j = k
  · subst hjk
    exact .inl (h.gone_erase hk ha)
  · exact .of_get? ((Table.get?_erase_of_ne hjk).trans ha)

theorem Move.precedes (h : Move w s s') (hs : s.Sound) : s.Precedes s' := by
  have hgone : ∀ {k}, s.Gone k → s'.Gone k := h.gone hs
  cases h.change with
  | rest hbook => exact .of_book hbook hgone
  | opens => exact .of_book rfl hgone
  | stages _ hbook => exact .of_book hbook hgone
  | discards u => exact .of_book rfl hgone
  | publishes hu => exact hs.precedes_publish hu hgone
  | removes hk => exact hs.precedes_erase hk hgone

end Teller.Store

import Teller.Amount

/-!
# Pages

A page is a window on a list of rows: how many rows, after how many. Pages are numbered from one.
`Page.numbered` clamps an offset outside the range of amounts, `Page.numbered?` refuses it.
-/

namespace Teller

/-- A window on a list of rows. -/
structure Page where
  /-- How many rows the window holds at most. -/
  limit : Int
  /-- How many rows come before the window. -/
  offset : Int
deriving Repr, DecidableEq

namespace Page

/-- The page of a number and a size; each step of the offset is clamped. -/
def numbered (number size : Int) : Page :=
  ⟨size, Amount.clamp (Amount.clamp (number - 1) * size)⟩

/-- The page of a number and a size, if each step of the offset is an amount. -/
def numbered? (number size : Int) : Option Page := do
  let before ← Amount.fit? (number - 1)
  let offset ← Amount.fit? (before * size)
  return ⟨size, offset⟩

/-- The rows in the window; a negative limit or offset counts as zero. -/
def cut {α : Type} (page : Page) (rows : List α) : List α :=
  (rows.drop page.offset.toNat).take page.limit.toNat

end Page

end Teller

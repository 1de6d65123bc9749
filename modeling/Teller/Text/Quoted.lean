import Teller.Numeral
import Teller.Text.Hidden

/-!
# Quoted text

Text between double quotes, on one line and readable: a quote, a backslash, a tab and the two line
ends take a backslash, NUL is written as a backslash and a zero, and any other character without a
plain form is written by its number.
-/

namespace Teller.Text

/-- The written form of a character inside quotes. -/
def escapeChar (c : Char) : List Char :=
  if c = '\x00' then ['\\', '0']
  else if c = '\t' then ['\\', 't']
  else if c = '\r' then ['\\', 'r']
  else if c = '\n' then ['\\', 'n']
  else if c = '"' ∨ c = '\\' then ['\\', c]
  else if isHidden c then '\\' :: 'u' :: '\x7b' :: Numeral.digits 16 c.toNat ++ ['\x7d']
  else [c]

/-- The text between double quotes. -/
def quoted (s : String) : String :=
  String.ofList ('"' :: s.toList.flatMap escapeChar ++ ['"'])

end Teller.Text

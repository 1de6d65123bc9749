import Teller.Numeral
import Teller.Text.Utf8

/-!
# Percent encoding

Octets written as a percent sign and two hexadecimal digits. A percent sign before anything else
stands for itself.
-/

namespace Teller.Gateway.Percent

def octet? (a b : Nat) : Option Nat :=
  Numeral.ofDigits? 16 [Char.ofNat a, Char.ofNat b]

def decode : List Nat → List Nat
  | 0x25 :: a :: b :: rest =>
    match octet? a b with
    | some n => n :: decode rest
    | none => 0x25 :: decode (a :: b :: rest)
  | n :: rest => n :: decode rest
  | [] => []

/-- The text that a part of a path stands for, if it is one. -/
def text? (cs : List Char) : Option (List Char) :=
  Text.Utf8.decode? (decode (Text.Utf8.encode cs))

/-- The text that a part of a form stands for; a plus is a blank. -/
def formText (cs : List Char) : List Char :=
  Text.Utf8.decode (decode ((Text.Utf8.encode cs).map fun n => if n = 0x2b then 0x20 else n))

end Teller.Gateway.Percent

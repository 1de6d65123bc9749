/-!
# UTF-8

Text as octets, and octets as text. Octets that are no text are refused, or replaced: each longest
part that could begin a character is one replacement character.
-/

namespace Teller.Text.Utf8

def encodeChar (c : Char) : List Nat :=
  let n := c.toNat
  if n < 0x80 then [n]
  else if n < 0x800 then [0xc0 + n / 0x40, 0x80 + n % 0x40]
  else if n < 0x10000 then [0xe0 + n / 0x1000, 0x80 + n / 0x40 % 0x40, 0x80 + n % 0x40]
  else [0xf0 + n / 0x40000, 0x80 + n / 0x1000 % 0x40, 0x80 + n / 0x40 % 0x40, 0x80 + n % 0x40]

def encode (cs : List Char) : List Nat :=
  cs.flatMap encodeChar

/-- The octet goes on with a character. -/
def isTail (b : Nat) : Bool :=
  0x80 ≤ b && b ≤ 0xbf

/-- The second octets that may follow a first octet of three or four. -/
def isSecond (first b : Nat) : Bool :=
  if first = 0xe0 then 0xa0 ≤ b && b ≤ 0xbf
  else if first = 0xed then 0x80 ≤ b && b ≤ 0x9f
  else if first = 0xf0 then 0x90 ≤ b && b ≤ 0xbf
  else if first = 0xf4 then 0x80 ≤ b && b ≤ 0x8f
  else isTail b

def next3 (a : Nat) : List Nat → Option Char × List Nat
  | b :: c :: rest =>
    if isSecond a b then
      if isTail c then
        (some (Char.ofNat ((a - 0xe0) * 0x1000 + (b - 0x80) * 0x40 + (c - 0x80))), rest)
      else (none, c :: rest)
    else (none, b :: c :: rest)
  | [b] => if isSecond a b then (none, []) else (none, [b])
  | [] => (none, [])

def next4 (a : Nat) : List Nat → Option Char × List Nat
  | b :: c :: d :: rest =>
    if isSecond a b then
      if isTail c then
        if isTail d then
          (some (Char.ofNat ((a - 0xf0) * 0x40000 + (b - 0x80) * 0x1000 + (c - 0x80) * 0x40 +
            (d - 0x80))), rest)
        else (none, d :: rest)
      else (none, c :: d :: rest)
    else (none, b :: c :: d :: rest)
  | [b, c] =>
    if isSecond a b then
      if isTail c then (none, []) else (none, [c])
    else (none, [b, c])
  | [b] => if isSecond a b then (none, []) else (none, [b])
  | [] => (none, [])

/-- The character that begins with an octet, or nothing if there is none, and what follows. -/
def next (a : Nat) (rest : List Nat) : Option Char × List Nat :=
  if a < 0x80 then (some (Char.ofNat a), rest)
  else if 0xc2 ≤ a ∧ a ≤ 0xdf then
    match rest with
    | b :: r => if isTail b then (some (Char.ofNat ((a - 0xc0) * 0x40 + (b - 0x80))), r)
      else (none, rest)
    | [] => (none, [])
  else if 0xe0 ≤ a ∧ a ≤ 0xef then next3 a rest
  else if 0xf0 ≤ a ∧ a ≤ 0xf4 then next4 a rest
  else (none, rest)

theorem length_next3 (a : Nat) (rest : List Nat) : (next3 a rest).2.length ≤ rest.length := by
  unfold next3
  split
  · split
    · split <;> simp
      omega
    · simp
  · split <;> simp
  · simp

theorem length_next4 (a : Nat) (rest : List Nat) : (next4 a rest).2.length ≤ rest.length := by
  unfold next4
  split
  · split
    · split
      · split <;> simp
        omega
      · simp
    · simp
  · split
    · split <;> simp
    · simp
  · split <;> simp
  · simp

theorem length_next (a : Nat) (rest : List Nat) : (next a rest).2.length ≤ rest.length := by
  unfold next
  split
  · simp
  · split
    · split
      · split <;> simp
      · simp
    · split
      · exact length_next3 a rest
      · split
        · exact length_next4 a rest
        · simp

/-- The text of octets, if they are one. -/
def decode? : List Nat → Option (List Char)
  | [] => some []
  | a :: rest =>
    match _h : next a rest with
    | (some c, r) => (decode? r).map (c :: ·)
    | (none, _) => none
termination_by bs => bs.length
decreasing_by
  have := length_next a rest
  rw [_h] at this
  simp at this ⊢
  omega

/-- The text of octets, with a replacement for what is none. -/
def decodeWith (replacement : List Char) : List Nat → List Char
  | [] => []
  | a :: rest => (next a rest).1.elim replacement ([·]) ++ decodeWith replacement (next a rest).2
termination_by bs => bs.length
decreasing_by
  have := length_next a rest
  simp only [List.length_cons]
  omega

/-- The text of octets, with replacement characters. -/
def decode (octets : List Nat) : List Char :=
  decodeWith ['\uFFFD'] octets

end Teller.Text.Utf8

import Teller.Text.Blank
import Teller.Time.Instant

/-!
# RFC 3339

Date and time with an offset. Writing is canonical: Universal Time with `Z`, and no fraction or one
of 3, 6 or 9 digits. Reading is lenient: numbers may lack their leading zeros, blanks may stand
before each part, a lower-case `t` or a space may separate date and time, a signed year may have
any number of digits, and digits of the fraction after the ninth are dropped.
-/

namespace Teller.Time.Rfc3339

/-- Why a text is no date and time. -/
inductive Fault where
  /-- A part is outside its range, or the day does not exist. -/
  | outOfRange
  /-- No instant of the calendar shows this date and time. -/
  | impossible
  | badCharacter
  | tooShort
  | tooLong
deriving Repr, DecidableEq

def Fault.message : Fault → String
  | .outOfRange => "input is out of range"
  | .impossible => "no possible date and time matching input"
  | .badCharacter => "input contains invalid characters"
  | .tooShort => "premature end of input"
  | .tooLong => "trailing input"

/-! ### Writing -/

/-- The year in four digits, with a sign if four digits do not do. -/
def writeYear (y : Int) : List Char :=
  if y < 0 then '-' :: Numeral.padded 4 y.natAbs
  else if 9999 < y then '+' :: Numeral.padded 4 y.natAbs
  else Numeral.padded 4 y.natAbs

/-- The fraction of a second in 0, 3, 6 or 9 digits. -/
def writeFraction (nano : Nat) : List Char :=
  if nano = 0 then []
  else if nano % 1000000 = 0 then '.' :: Numeral.padded 3 (nano / 1000000)
  else if nano % 1000 = 0 then '.' :: Numeral.padded 6 (nano / 1000)
  else '.' :: Numeral.padded 9 nano

/-- The nanoseconds since the second that is written: a leap second is written as second 60. -/
def nanoOf (t : Instant) : Nat :=
  if 1000000000 ≤ t.nano then t.nano - 1000000000 else t.nano

def writeSeconds (t : Instant) : List Char :=
  let second := if 1000000000 ≤ t.nano then t.second % 60 + 1 else t.second % 60
  writeYear t.date.year ++ '-' :: Numeral.padded 2 t.date.month ++ '-' ::
    Numeral.padded 2 t.date.day ++ 'T' :: Numeral.padded 2 (t.second / 3600) ++ ':' ::
    Numeral.padded 2 (t.second / 60 % 60) ++ ':' :: Numeral.padded 2 second

/-- The canonical text of an instant. -/
def write (t : Instant) : List Char :=
  writeSeconds t ++ writeFraction (nanoOf t) ++ ['Z']

/-- The text of an instant with six digits of the fraction. -/
def writeMicros (t : Instant) : List Char :=
  writeSeconds t ++ '.' :: Numeral.padded 6 (nanoOf t / 1000) ++ ['Z']

/-! ### Reading -/

/-- Reads digits up to a count; `value` is what was read before. The value must be an amount. -/
def readDigits : Nat → Nat → List Char → Except Fault (Nat × List Char)
  | 0, value, cs => .ok (value, cs)
  | _ + 1, value, [] => .ok (value, [])
  | count + 1, value, c :: cs =>
    match Numeral.digitValue? 10 c with
    | none => .ok (value, c :: cs)
    | some d =>
      if 9223372036854775807 < value * 10 + d then .error .outOfRange
      else readDigits count (value * 10 + d) cs

/-- Reads a number of at least one digit and at most `count`. -/
def readNumber (count : Nat) : List Char → Except Fault (Nat × List Char)
  | [] => .error .tooShort
  | c :: cs => if Numeral.isDigit c then readDigits count 0 (c :: cs) else .error .badCharacter

/-- Reads a number of at most two digits within bounds, after blanks. -/
def readPart (lo hi : Nat) (cs : List Char) : Except Fault (Nat × List Char) := do
  let (n, rest) ← readNumber 2 (Text.trimLeft cs)
  if n < lo ∨ hi < n then .error .outOfRange else .ok (n, rest)

/-- Reads the year, after blanks: four digits at most, any number of them after a sign. -/
def readYear (cs : List Char) : Except Fault (Int × List Char) :=
  match Text.trimLeft cs with
  | '-' :: rest => do
    let (n, rest) ← readNumber rest.length rest
    year (-n) rest
  | '+' :: rest => do
    let (n, rest) ← readNumber rest.length rest
    year n rest
  | rest => do
    let (n, rest) ← readNumber 4 rest
    year n rest
where
  /-- A year is a number of 32 bits. -/
  year (n : Int) (rest : List Char) : Except Fault (Int × List Char) :=
    if n < -2147483648 ∨ 2147483647 < n then .error .outOfRange else .ok (n, rest)

/-- Reads a separator, after blanks. -/
def readMark (mark : Char) (cs : List Char) : Except Fault (List Char) :=
  match Text.trimLeft cs with
  | [] => .error .tooShort
  | c :: rest => if c = mark then .ok rest else .error .badCharacter

/-- Reads the fraction of a second in nanoseconds, if there is one. -/
def readFraction : List Char → Except Fault (Nat × List Char)
  | '.' :: cs => do
    let (n, rest) ← readNumber 9 cs
    let used := cs.length - rest.length
    .ok (n * Nat.pow 10 (9 - used), rest.dropWhile Numeral.isDigit)
  | cs => .ok (0, cs)

/-- Reads two digits that must both be there. A lone character is too short only if it is ASCII: the
measure is the length in bytes. -/
def readPair : List Char → Except Fault ((Nat × Nat) × List Char)
  | c :: d :: rest =>
    match Numeral.digitValue? 10 c, Numeral.digitValue? 10 d with
    | some m, some n => .ok ((m, n), rest)
    | _, _ => .error .badCharacter
  | [c] => if c.toNat < 0x80 then .error .tooShort else .error .badCharacter
  | [] => .error .tooShort

def isGap (c : Char) : Bool :=
  c = ':' || Text.isBlank c

/-- Reads hours and minutes of an offset, with its sign already read. -/
def readOffsetSize (cs : List Char) : Except Fault (Nat × List Char) := do
  let ((h1, h2), rest) ← readPair cs
  let ((m1, m2), rest) ← readPair (rest.dropWhile isGap)
  if 5 < m1 then .error .outOfRange
  else .ok ((h1 * 10 + h2) * 3600 + (m1 * 10 + m2) * 60, rest)

def isUtc (a b c : Char) : Bool :=
  (a = 'U' || a = 'u') && (b = 'T' || b = 't') && (c = 'C' || c = 'c')

/-- Reads the offset in seconds: `Z`, `UTC`, or a sign and hours and minutes. -/
def readOffset (cs : List Char) : Except Fault (Int × List Char) :=
  match cs with
  | [] => .error .tooShort
  | sign :: rest =>
    if (match cs with | a :: b :: c :: _ => isUtc a b c | _ => false) then .ok (0, cs.drop 3)
    else if sign = 'Z' ∨ sign = 'z' then .ok (0, rest)
    else if sign = '+' then do
      let (n, rest) ← readOffsetSize rest
      .ok (n, rest)
    else if sign = '-' ∨ sign = '−' then do
      let (n, rest) ← readOffsetSize rest
      .ok (-n, rest)
    else .error .badCharacter

def readDivider : List Char → Except Fault (List Char)
  | [] => .error .tooShort
  | c :: cs => if c = 't' ∨ c = 'T' ∨ c = ' ' then .ok cs else .error .badCharacter

/-- The instant at which a clock ahead by `offset` seconds shows the parts. -/
def resolve (day : Day) (hour minute second nano : Nat) (offset : Int) : Except Fault Instant :=
  if ¬ day.Valid then .error .outOfRange
  else
    let leap := second = 60
    let shown : Instant :=
      ⟨day, hour * 3600 + minute * 60 + (if leap then 59 else second),
        if leap then nano + 1000000000 else nano⟩
    if offset ≤ -86400 ∨ 86400 ≤ offset then .error .outOfRange
    else
      match shown.behind? offset with
      | some t => .ok t
      | none => .error .impossible

/-- Reads an instant; nothing but blanks may follow. -/
def read (cs : List Char) : Except Fault Instant := do
  let (year, cs) ← readYear cs
  let cs ← readMark '-' cs
  let (month, cs) ← readPart 1 12 cs
  let cs ← readMark '-' cs
  let (day, cs) ← readPart 1 31 cs
  let cs ← readDivider cs
  let (hour, cs) ← readPart 0 23 cs
  let cs ← readMark ':' cs
  let (minute, cs) ← readPart 0 59 cs
  let cs ← readMark ':' cs
  let (second, cs) ← readPart 0 60 cs
  let (nano, cs) ← readFraction cs
  let (offset, cs) ← readOffset (Text.trimLeft cs)
  if Text.trimLeft cs ≠ [] then .error .tooLong
  else resolve ⟨year, month, day⟩ hour minute second nano offset

end Teller.Time.Rfc3339

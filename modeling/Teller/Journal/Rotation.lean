import Teller.Numeral
import Teller.Time.Instant

/-!
# Rotation

How often the journal begins a new file. The name of a file tells when it was begun.
-/

namespace Teller.Journal

inductive Rotation where
  | never
  | daily
  | hourly
  | minutely
deriving Repr, DecidableEq, Inhabited

/-- A point of time in the parts that names of files have. -/
structure Stamp where
  date : String
  hour : String
  minute : String
deriving Repr, DecidableEq, Inhabited

def Stamp.ofInstant (t : Time.Instant) : Stamp where
  date := .ofList (Numeral.decimal t.date.year ++ '-' :: Numeral.padded 2 t.date.month ++ '-' ::
    Numeral.padded 2 t.date.day)
  hour := .ofList (Numeral.padded 2 (t.second / 3600))
  minute := .ofList (Numeral.padded 2 (t.second / 60 % 60))

namespace Rotation

/-- The rotation of a name; any other name stands for none. -/
def ofName (name : String) : Rotation :=
  if name = "daily" then .daily
  else if name = "hourly" then .hourly
  else if name = "minutely" then .minutely
  else .never

/-- The part of a point of time that tells files apart. -/
def stamp (r : Rotation) (t : Stamp) : String :=
  match r with
  | .never => t.date
  | .daily => t.date
  | .hourly => "-".intercalate [t.date, t.hour]
  | .minutely => "-".intercalate [t.date, t.hour, t.minute]

/-- The name of the file that is begun at a time. A file without a name of its own is named for the
time alone. -/
def fileName (r : Rotation) (name : String) (t : Stamp) : String :=
  if name = "" then r.stamp t
  else
    match r with
    | .never => name
    | r => name ++ "." ++ r.stamp t

end Rotation

end Teller.Journal

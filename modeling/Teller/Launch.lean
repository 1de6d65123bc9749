import Teller.Journal.Filter
import Teller.Journal.Line
import Teller.Journal.Rotation
import Teller.Settings.Load

/-!
# Launch

What happens between the call of the program and its first contact with the database: settings are
loaded, the journal is opened, and the start is noted. No database server is in reach, so a launch
always ends with a failure, which is reported with its causes.
-/

namespace Teller

/-- What the program finds when it is called. -/
structure Surroundings where
  arguments : List String
  /-- The address of the database, if it is given from outside. -/
  databaseUrl : Option String
  /-- The filter of the journal, if it is given from outside. -/
  filter : Option String
  /-- The text of a file, or why it cannot be read. -/
  read : String → Except String String

/-- Why a database is out of reach. -/
inductive ConnectError where
  /-- The address names no kind of database. -/
  | relative
  /-- Nobody listens at the address. -/
  | noSocket
deriving Repr, DecidableEq, Inhabited

namespace ConnectError

def chain : ConnectError → List String
  | .relative =>
    ["error with configuration: relative URL without a base", "relative URL without a base"]
  | .noSocket =>
    ["error communicating with database: " ++ Settings.noFile, Settings.noFile]

/-- The scheme of an address, if it has one: letters, digits and some signs before a colon. -/
def scheme? (url : String) : Option String :=
  let cs := url.toList.dropWhile fun c => decide (c ≤ ' ')
  let name := cs.takeWhile fun c => c.isAlphanum || c = '+' || c = '-' || c = '.'
  match name, cs.dropWhile fun c => c.isAlphanum || c = '+' || c = '-' || c = '.' with
  | c :: _, ':' :: _ => if c.isAlpha then some (.ofList name) else none
  | _, _ => none

def ofUrl (url : String) : ConnectError :=
  if (scheme? url).isSome then .noSocket else .relative

end ConnectError

inductive LaunchError where
  | settings (e : Settings.LoadError)
  | noDatabase
  | connection (e : ConnectError)
deriving Repr, DecidableEq, Inhabited

namespace LaunchError

def message : LaunchError → String
  | .settings e => e.message
  | .noDatabase => Settings.noDatabase
  | .connection _ => "connect to PostgreSQL"

def chain : LaunchError → List String
  | .settings e => e.chain
  | .noDatabase => []
  | .connection e => e.chain

/-- The causes in lines; several of them are numbered. -/
def causeLines : List String → List String
  | [] => []
  | [cause] => ["", "Caused by:", "    " ++ cause]
  | causes =>
    "" :: "Caused by:" :: causes.zipIdx.map fun (cause, i) => "    " ++ toString i ++ ": " ++ cause

def report (e : LaunchError) : List String :=
  ("Error: " ++ e.message) :: causeLines e.chain

end LaunchError

structure Journal where
  directory : String
  file : String
  rotation : Journal.Rotation
  /-- Notes are written as JSON; otherwise as text, and shown on the screen as well. -/
  useJson : Bool
  events : List Event
deriving Repr, DecidableEq, Inhabited

/-- How a launch ends. -/
structure Launch where
  /-- What was said before the failure. -/
  remarks : List String
  journal : Option Journal
  error : LaunchError
deriving Repr, DecidableEq, Inhabited

namespace Launch

/-- The environment that the arguments name: what follows the first of two spellings of an option
that is not the last argument. -/
def environment : List String → String
  | option :: value :: rest =>
    if option = "--env" ∨ option = "-e" then value else environment (value :: rest)
  | _ => "dev"

/-- The filter of the journal, and remarks on what is no filter in the settings. A filter from
outside counts only if all of it can be read. -/
def filter (given : Option String) (s : Settings) : Journal.Filter × List String :=
  match given.bind Journal.Filter.read? with
  | some f => (f, [])
  | none => Journal.Filter.readSome (s.logLevel ++ ",sqlx=warn")

/-- Opens the journal and notes the start, if the filter lets it pass. -/
def openJournal (filter : Journal.Filter) (environment : String) (s : Settings) : Journal :=
  let start := Event.starting environment
  { directory := s.logDirectory
    file := s.logFile
    rotation := .ofName s.rotation
    useJson := s.useJson
    events := if filter.Admits Event.source start.level then [start] else [] }

def run (around : Surroundings) : Launch :=
  let env := environment around.arguments
  match Settings.load around.read around.databaseUrl env with
  | .error e => ⟨[], none, .settings e⟩
  | .ok s =>
    let (filter, remarks) := filter around.filter s
    let error := match s.databaseUrl? with
      | some url => .connection (.ofUrl url)
      | none => .noDatabase
    ⟨remarks, some (openJournal filter env s), error⟩

/-- What is said on the channel for errors, in lines. -/
def errorLines (l : Launch) : List String :=
  (l.remarks ++ l.error.report).flatMap fun text => text.splitOn "\n"

/-- A failed launch ends with this code. -/
def exitCode : Nat := 1

end Launch

end Teller

import Std.Time.DateTime
import Teller.Launch
import Teller.Time.Rfc3339

/-!
# The program

Looks at what surrounds it, launches, and writes down how that ended.
-/

open Teller

def presentInstant : IO Time.Instant := do
  let nanos := (← Std.Time.Timestamp.now).toNanosecondsSinceUnixEpoch.val
  return .ofEpochSeconds (nanos / 1000000000) (nanos % 1000000000).toNat

def readText (path : String) : IO (Except String String) := do
  try
    return .ok (← IO.FS.readFile path)
  catch e =>
    match e with
    | .noFileOrDirectory _ _ _ => return .error Settings.noFile
    | e => return .error (toString e)

/-- Writes a journal to its file, and to the screen if it is for people. -/
def writeJournal (j : Journal) : IO Unit := do
  let now ← presentInstant
  let time := String.ofList (Time.Rfc3339.writeMicros now)
  let name := j.rotation.fileName j.file (.ofInstant now)
  IO.FS.createDirAll j.directory
  IO.FS.withFile (j.directory ++ "/" ++ name) .append fun file => do
    for e in j.events do
      if j.useJson then file.putStrLn (e.jsonLine time)
      else
        file.putStrLn (e.line time)
        IO.println (e.line time)

def main (arguments : List String) : IO UInt32 := do
  -- A launch asks for no other file.
  let text ← readText (Settings.path (Launch.environment arguments))
  let launch := Launch.run {
    arguments := arguments
    databaseUrl := ← IO.getEnv "BANK_POSTGRES_URL"
    filter := ← IO.getEnv "RUST_LOG"
    read := fun _ => text }
  if let some j := launch.journal then
    writeJournal j
  for line in launch.errorLines do
    IO.eprintln line
  return .ofNat Launch.exitCode

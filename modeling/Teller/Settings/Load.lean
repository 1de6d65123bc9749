import Teller.Form.Settings
import Teller.Yaml.Decode

/-!
# Loading settings

Settings are read from a file of their environment. The address of the database may be given from
outside, and is then taken in place of the one in the file.
-/

namespace Teller.Settings

def ofYaml (text : String) : Except Yaml.Refusal Settings := do
  match ofDatum? (← Yaml.read schema text) with
  | some s => return s
  | none => .error (.mismatch [] (invalidType "map" schema.expected))

/-- The file of an environment. -/
def path (environment : String) : String :=
  "config/" ++ environment ++ ".yaml"

def noFile : String := "No such file or directory (os error 2)"

inductive LoadError where
  | unreadable (path reason : String)
  | unfit (path : String) (refusal : Yaml.Refusal)
deriving Repr, DecidableEq, Inhabited

namespace LoadError

def message : LoadError → String
  | .unreadable path reason => "Failed to read config file " ++ path ++ ": " ++ reason
  | .unfit path refusal => "Failed to parse config yaml " ++ path ++ ": " ++ refusal.message

/-- The messages of the causes, the nearest first. -/
def chain : LoadError → List String
  | .unreadable _ reason => [reason]
  | .unfit _ refusal => [refusal.message]

end LoadError

def noDatabase : String := "postgres_url is not set (config file or BANK_POSTGRES_URL)"

/-- The settings of an environment, from the files that `read` gives or fails to give. -/
def load (read : String → Except String String) (databaseUrl : Option String)
    (environment : String) : Except LoadError Settings := do
  let text ← (read (path environment)).mapError (.unreadable (path environment))
  let s ← (ofYaml text).mapError (.unfit (path environment))
  return { s with postgresUrl := databaseUrl.or s.postgresUrl }

end Teller.Settings

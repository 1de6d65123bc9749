import Teller.Form.Row
import Teller.Settings.Basic

/-!
# Forms of settings

How settings are written down. The address of the database and the settings of the ledger may be
left out.
-/

namespace Teller

namespace GatewaySettings

def schema : Schema :=
  .record "GatewayConfig" [
    (.required "host", .text),
    (.required "port", .int .u16)]

def datum (s : GatewaySettings) : Datum :=
  .record [("host", .text s.host), ("port", .int s.port)]

def ofDatum? (d : Datum) : Option GatewaySettings := do
  let host ← (← d.field? "host").text?
  let port ← (← d.field? "port").nat?
  return ⟨host, port⟩

end GatewaySettings

namespace LedgerSettings

def schema : Schema :=
  .record "LedgerConfig" [
    (.required "tx_timeout_ms", .int .u64),
    (.required "allow_overdraft", .bool),
    (.required "max_connections", .int .u32)]

def datum (s : LedgerSettings) : Datum :=
  .record [
    ("tx_timeout_ms", .int s.timeoutMs),
    ("allow_overdraft", .bool s.allowOverdraft),
    ("max_connections", .int s.maxConnections)]

def ofDatum? (d : Datum) : Option LedgerSettings := do
  let timeoutMs ← (← d.field? "tx_timeout_ms").nat?
  let allowOverdraft ← (← d.field? "allow_overdraft").bool?
  let maxConnections ← (← d.field? "max_connections").nat?
  return ⟨timeoutMs, allowOverdraft, maxConnections⟩

end LedgerSettings

namespace Settings

def schema : Schema :=
  .record "AppConfig" [
    (.required "log_level", .text),
    (.required "log_dir", .text),
    (.required "log_file", .text),
    (.required "use_json", .bool),
    (.required "rotation", .text),
    (.required "gateway", GatewaySettings.schema),
    (.withDefault "postgres_url" .absent, .optional .text),
    (.withDefault "ledger" LedgerSettings.standard.datum, LedgerSettings.schema)]

def datum (s : Settings) : Datum :=
  .record [
    ("log_level", .text s.logLevel),
    ("log_dir", .text s.logDirectory),
    ("log_file", .text s.logFile),
    ("use_json", .bool s.useJson),
    ("rotation", .text s.rotation),
    ("gateway", s.gateway.datum),
    ("postgres_url", match s.postgresUrl with | some url => .text url | none => .absent),
    ("ledger", s.ledger.datum)]

def ofDatum? (d : Datum) : Option Settings := do
  let logLevel ← (← d.field? "log_level").text?
  let logDirectory ← (← d.field? "log_dir").text?
  let logFile ← (← d.field? "log_file").text?
  let useJson ← (← d.field? "use_json").bool?
  let rotation ← (← d.field? "rotation").text?
  let gateway ← GatewaySettings.ofDatum? (← d.field? "gateway")
  let postgresUrl ← (← d.field? "postgres_url").textOrAbsent?
  let ledger ← LedgerSettings.ofDatum? (← d.field? "ledger")
  return ⟨logLevel, logDirectory, logFile, useJson, rotation, gateway, postgresUrl, ledger⟩

end Settings

end Teller

import Teller.Form
import Teller.Proofs.Json.Decode

/-!
# Forms round-trip

Three parts of a form have to fit: the schema by which a text is read, what is read from the data, and
the data that are written of a value. Data of the schema are those of a value (`Form.exists_datum`), and
a value is read from its own data (`Form.ofDatum?_datum`); so `forms_round_trip`: whatever text is read,
be it with fields in another order, left out or unknown, is read as a value, and the text of this value is
read as the same value and as nothing else.
-/

namespace Teller

open Schema (Conforms Lawful)

variable {d : Datum}

/-! ### The parts of records -/

namespace FieldRule

variable {name : String} {e : Datum}

@[simp] theorem name_required : (required name).name = name := rfl

@[simp] theorem name_withDefault : (withDefault name e).name = name := rfl

@[simp] theorem name_omittable : (omittable name).name = name := rfl

@[simp] theorem keep_required : (required name).keep d = [(name, d)] := by
  cases d <;> rfl

@[simp] theorem keep_withDefault : (withDefault name e).keep d = [(name, d)] := by
  cases d <;> rfl

end FieldRule

namespace Schema.Conforms

variable {range : IntRange} {name : String} {fields : List (FieldRule × Schema)}

theorem exists_bool (h : Conforms .bool d) : ∃ b, d = .bool b := by
  cases h with
  | bool b => exact ⟨b, rfl⟩

theorem exists_int (h : Conforms (.int range) d) : ∃ n, d = .int n := by
  cases h with
  | int _ => exact ⟨_, rfl⟩

/-- A number that is not negative is a count. -/
theorem exists_nat (hrange : 0 ≤ range.least) (h : Conforms (.int range) d) :
    ∃ n : Nat, d = .int n := by
  cases h with
  | @int _ n hn => exact ⟨n.toNat, by rw [Int.toNat_of_nonneg (Int.le_trans hrange hn.1)]⟩

theorem exists_text (h : Conforms .text d) : ∃ s, d = .text s := by
  cases h with
  | text s => exact ⟨s, rfl⟩

theorem exists_time (h : Conforms .time d) : ∃ t, d = .time t := by
  cases h with
  | time _ => exact ⟨_, rfl⟩

theorem absent_or_text (h : Conforms (.optional .text) d) : d = .absent ∨ ∃ s, d = .text s := by
  cases h with
  | absent => exact .inl rfl
  | present h => exact .inr h.exists_text

theorem exists_record (h : Conforms (.record name fields) d) :
    ∃ value, (∀ f ∈ fields, f.2.Conforms (value f.1.name)) ∧ d = .record (kept value fields) := by
  cases h with
  | record value hvalue => exact ⟨value, hvalue, rfl⟩

end Schema.Conforms

/-! ### Rows -/

theorem Schema.Lawful.i64 : Lawful (.int .i64) := .int (by decide) (by decide)

namespace Currency

theorem lawful_schema : schema.Lawful :=
  .choice _

theorem exists_datum (h : schema.Conforms d) : ∃ c : Currency, c.datum = d := by
  cases h with
  | choice hword =>
    obtain ⟨c, -, rfl⟩ := List.mem_map.1 hword
    exact ⟨c, rfl⟩

/-- What is written down is understood. -/
@[simp] theorem ofDatum?_datum (c : Currency) : ofDatum? c.datum = some c :=
  ofCode?_code c

end Currency

namespace Account

theorem lawful_schema : schema.Lawful :=
  .record (by decide) (by simp [FieldRule.lawful_required])
    (by simp [Lawful.i64, Currency.lawful_schema, Lawful.text, Lawful.time])

theorem exists_datum (h : schema.Conforms d) : ∃ a : Account, a.datum = d := by
  obtain ⟨value, hvalue, rfl⟩ := h.exists_record
  simp only [List.forall_mem_cons, FieldRule.name_required] at hvalue
  obtain ⟨hid, howner, hbalance, hcurrency, hcreated, -⟩ := hvalue
  obtain ⟨id, hid⟩ := hid.exists_int
  obtain ⟨owner, howner⟩ := howner.exists_text
  obtain ⟨balance, hbalance⟩ := hbalance.exists_int
  obtain ⟨currency, hcurrency⟩ := Currency.exists_datum hcurrency
  obtain ⟨created, hcreated⟩ := hcreated.exists_time
  exact ⟨⟨id, owner, balance, currency, created⟩,
    by simp [Schema.kept, datum, hid, howner, hbalance, hcurrency, hcreated]⟩

@[simp] theorem ofDatum?_datum (a : Account) : ofDatum? a.datum = some a := by
  simp [ofDatum?, datum, Datum.field?, List.lookup_cons, Datum.int?, Datum.text?, Datum.time?]

end Account

namespace Entry

theorem lawful_schema : schema.Lawful :=
  .record (by decide) (by simp [FieldRule.lawful_required]) (by simp [Lawful.i64, Lawful.time])

theorem exists_datum (h : schema.Conforms d) : ∃ e : Entry, e.datum = d := by
  obtain ⟨value, hvalue, rfl⟩ := h.exists_record
  simp only [List.forall_mem_cons, FieldRule.name_required] at hvalue
  obtain ⟨hid, haccount, hamount, hcreated, -⟩ := hvalue
  obtain ⟨id, hid⟩ := hid.exists_int
  obtain ⟨account, haccount⟩ := haccount.exists_int
  obtain ⟨amount, hamount⟩ := hamount.exists_int
  obtain ⟨created, hcreated⟩ := hcreated.exists_time
  exact ⟨⟨id, account, amount, created⟩,
    by simp [Schema.kept, datum, hid, haccount, hamount, hcreated]⟩

@[simp] theorem ofDatum?_datum (e : Entry) : ofDatum? e.datum = some e := rfl

end Entry

namespace Transfer

theorem lawful_schema : schema.Lawful :=
  .record (by decide) (by simp [FieldRule.lawful_required]) (by simp [Lawful.i64, Lawful.time])

theorem exists_datum (h : schema.Conforms d) : ∃ t : Transfer, t.datum = d := by
  obtain ⟨value, hvalue, rfl⟩ := h.exists_record
  simp only [List.forall_mem_cons, FieldRule.name_required] at hvalue
  obtain ⟨hid, hsource, htarget, hamount, hcreated, -⟩ := hvalue
  obtain ⟨id, hid⟩ := hid.exists_int
  obtain ⟨source, hsource⟩ := hsource.exists_int
  obtain ⟨target, htarget⟩ := htarget.exists_int
  obtain ⟨amount, hamount⟩ := hamount.exists_int
  obtain ⟨created, hcreated⟩ := hcreated.exists_time
  exact ⟨⟨id, source, target, amount, created⟩,
    by simp [Schema.kept, datum, hid, hsource, htarget, hamount, hcreated]⟩

@[simp] theorem ofDatum?_datum (t : Transfer) : ofDatum? t.datum = some t := rfl

end Transfer

/-! ### Orders and receipts -/

namespace Order

theorem lawful_schema : schema.Lawful :=
  .record (by decide) (by simp [FieldRule.lawful_required]) (by simp [Lawful.i64])

theorem exists_datum (h : schema.Conforms d) : ∃ o : Order, o.datum = d := by
  obtain ⟨value, hvalue, rfl⟩ := h.exists_record
  simp only [List.forall_mem_cons, FieldRule.name_required] at hvalue
  obtain ⟨hsource, htarget, hamount, -⟩ := hvalue
  obtain ⟨source, hsource⟩ := hsource.exists_int
  obtain ⟨target, htarget⟩ := htarget.exists_int
  obtain ⟨amount, hamount⟩ := hamount.exists_int
  exact ⟨⟨source, target, amount⟩, by simp [Schema.kept, datum, hsource, htarget, hamount]⟩

@[simp] theorem ofDatum?_datum (o : Order) : ofDatum? o.datum = some o := rfl

end Order

namespace Receipt

theorem lawful_schema : schema.Lawful :=
  .record (by decide) (by simp [FieldRule.lawful_required])
    (by simp [Transfer.lawful_schema, Account.lawful_schema, Entry.lawful_schema])

theorem exists_datum (h : schema.Conforms d) : ∃ r : Receipt, r.datum = d := by
  obtain ⟨value, hvalue, rfl⟩ := h.exists_record
  simp only [List.forall_mem_cons, FieldRule.name_required] at hvalue
  obtain ⟨htransfer, hsource, htarget, hdebit, hcredit, -⟩ := hvalue
  obtain ⟨transfer, htransfer⟩ := Transfer.exists_datum htransfer
  obtain ⟨source, hsource⟩ := Account.exists_datum hsource
  obtain ⟨target, htarget⟩ := Account.exists_datum htarget
  obtain ⟨debit, hdebit⟩ := Entry.exists_datum hdebit
  obtain ⟨credit, hcredit⟩ := Entry.exists_datum hcredit
  exact ⟨⟨transfer, source, target, debit, credit⟩,
    by simp [Schema.kept, datum, htransfer, hsource, htarget, hdebit, hcredit]⟩

@[simp] theorem ofDatum?_datum (r : Receipt) : ofDatum? r.datum = some r := by
  simp [ofDatum?, datum, Datum.field?, List.lookup_cons]

end Receipt

/-! ### Settings -/

namespace GatewaySettings

theorem lawful_schema : schema.Lawful :=
  .record (by decide) (by simp [FieldRule.lawful_required])
    (by simp [Lawful.text, Lawful.int (show -9223372036854775808 ≤ IntRange.u16.least by decide)
      (by decide)])

theorem exists_datum (h : schema.Conforms d) : ∃ s : GatewaySettings, s.datum = d := by
  obtain ⟨value, hvalue, rfl⟩ := h.exists_record
  simp only [List.forall_mem_cons, FieldRule.name_required] at hvalue
  obtain ⟨hhost, hport, -⟩ := hvalue
  obtain ⟨host, hhost⟩ := hhost.exists_text
  obtain ⟨port, hport⟩ := hport.exists_nat (by decide)
  exact ⟨⟨host, port⟩, by simp [Schema.kept, datum, hhost, hport]⟩

theorem ofDatum?_datum (s : GatewaySettings) : ofDatum? s.datum = some s := rfl

end GatewaySettings

namespace LedgerSettings

theorem lawful_schema : schema.Lawful :=
  .record (by decide) (by simp [FieldRule.lawful_required])
    (by
      simp only [List.forall_mem_cons]
      exact ⟨.int (by decide) (by decide), .bool, .int (by decide) (by decide), nofun⟩)

theorem exists_datum (h : schema.Conforms d) : ∃ s : LedgerSettings, s.datum = d := by
  obtain ⟨value, hvalue, rfl⟩ := h.exists_record
  simp only [List.forall_mem_cons, FieldRule.name_required] at hvalue
  obtain ⟨htimeout, hoverdraft, hconnections, -⟩ := hvalue
  obtain ⟨timeout, htimeout⟩ := htimeout.exists_nat (by decide)
  obtain ⟨overdraft, hoverdraft⟩ := hoverdraft.exists_bool
  obtain ⟨connections, hconnections⟩ := hconnections.exists_nat (by decide)
  exact ⟨⟨timeout, overdraft, connections⟩,
    by simp [Schema.kept, datum, htimeout, hoverdraft, hconnections]⟩

theorem ofDatum?_datum (s : LedgerSettings) : ofDatum? s.datum = some s := rfl

/-- The settings that hold by default can be written down. -/
theorem conforms_standard : schema.Conforms standard.datum :=
  (Schema.Keeps.cons (by decide) (.int (by decide))
    (.cons (by decide) (.bool false) (.cons (by decide) (.int (by decide)) .nil))).conforms

end LedgerSettings

namespace Settings

theorem lawful_schema : schema.Lawful := by
  refine .record (by decide) ?_ ?_
  · simp [FieldRule.lawful_required, FieldRule.lawful_withDefault (.absent .text),
      FieldRule.lawful_withDefault LedgerSettings.conforms_standard]
  · simp [Lawful.text, Lawful.bool, Lawful.text.optional nofun, GatewaySettings.lawful_schema,
      LedgerSettings.lawful_schema]

theorem exists_datum (h : schema.Conforms d) : ∃ s : Settings, s.datum = d := by
  obtain ⟨value, hvalue, rfl⟩ := h.exists_record
  simp only [List.forall_mem_cons, FieldRule.name_required, FieldRule.name_withDefault] at hvalue
  obtain ⟨hlevel, hdirectory, hfile, hjson, hrotation, hgateway, hurl, hledger, -⟩ := hvalue
  obtain ⟨level, hlevel⟩ := hlevel.exists_text
  obtain ⟨directory, hdirectory⟩ := hdirectory.exists_text
  obtain ⟨file, hfile⟩ := hfile.exists_text
  obtain ⟨json, hjson⟩ := hjson.exists_bool
  obtain ⟨rotation, hrotation⟩ := hrotation.exists_text
  obtain ⟨gateway, hgateway⟩ := GatewaySettings.exists_datum hgateway
  obtain ⟨ledger, hledger⟩ := LedgerSettings.exists_datum hledger
  rcases hurl.absent_or_text with hurl | ⟨url, hurl⟩
  · exact ⟨⟨level, directory, file, json, rotation, gateway, none, ledger⟩,
      by simp [Schema.kept, datum, hlevel, hdirectory, hfile, hjson, hrotation, hgateway, hurl,
        hledger]⟩
  · exact ⟨⟨level, directory, file, json, rotation, gateway, some url, ledger⟩,
      by simp [Schema.kept, datum, hlevel, hdirectory, hfile, hjson, hrotation, hgateway, hurl,
        hledger]⟩

theorem ofDatum?_datum (s : Settings) : ofDatum? s.datum = some s := by
  obtain ⟨_, _, _, _, _, _, url, _⟩ := s
  cases url <;> rfl

/-- The fields of settings without those that may be left out. -/
def requiredFields (s : Settings) : List (String × Datum) := [
  ("log_level", .text s.logLevel),
  ("log_dir", .text s.logDirectory),
  ("log_file", .text s.logFile),
  ("use_json", .bool s.useJson),
  ("rotation", .text s.rotation),
  ("gateway", s.gateway.datum)]

/-- Settings that leave out what they have by default are read as if it was there. -/
theorem read_requiredFields {s : Settings} (h : schema.Conforms s.datum) (hurl : s.postgresUrl = none)
    (hledger : s.ledger = .standard) :
    Json.read schema (Json.render (.record s.requiredFields)) = .ok s.datum := by
  obtain ⟨value, hvalue, hdatum⟩ := h.exists_record
  rw [hdatum]
  refine Json.read_render_of_spells value lawful_schema hvalue ⟨by simp [requiredFields], ?_, ?_⟩
  · simp [Schema.kept, datum] at hdatum
    simp [requiredFields, hdatum]
  · simp [Schema.kept, datum, hurl, hledger] at hdatum
    simp [requiredFields, FieldRule.withDefault, hdatum]

end Settings

/-! ### Envelopes -/

namespace Envelope

variable {α : Type} {f : α → Datum} {s : Schema}

theorem success_eq (a : α) : success (f a) = datum f ⟨0, "ok", some a⟩ := rfl

theorem failure_eq (code : Int) (message : String) :
    failure code message = datum f ⟨code, message, none⟩ := rfl

theorem lawful_schema (h : s.Lawful) (hs : ∀ t, s ≠ .optional t) : (schema s).Lawful := by
  refine .record (by simp) ?_ ?_
  · simp [FieldRule.lawful_required, FieldRule.lawful_omittable]
  · simp only [List.forall_mem_cons]
    exact ⟨.int (by decide) (by decide), .text, h.optional hs, nofun⟩

/-- An envelope whose data are null is one without data. -/
theorem exists_datum (hdata : ∀ d, s.Conforms d → ∃ a, f a = d) (h : (schema s).Conforms d) :
    ∃ e : Envelope α, datum f e = d := by
  obtain ⟨value, hvalue, rfl⟩ := h.exists_record
  simp only [List.forall_mem_cons, FieldRule.name_required, FieldRule.name_omittable] at hvalue
  obtain ⟨hcode, hmessage, hvalue, -⟩ := hvalue
  obtain ⟨code, hcode⟩ := hcode.exists_int
  obtain ⟨message, hmessage⟩ := hmessage.exists_text
  by_cases habsent : value "data" = .absent
  · have hkeep : (FieldRule.omittable "data").keep .absent = [] := rfl
    exact ⟨⟨code, message, none⟩, by simp [Schema.kept, datum, hcode, hmessage, habsent, hkeep]⟩
  · obtain ⟨a, ha⟩ : ∃ a, f a = value "data" := by
      generalize value "data" = d at hvalue habsent
      cases hvalue with
      | absent => exact absurd rfl habsent
      | present h => exact hdata d h
    exact ⟨⟨code, message, some a⟩,
      by simp [Schema.kept, datum, hcode, hmessage, FieldRule.keep_of_ne habsent, ha]⟩

/-- An envelope whose data are null is read as the one without data. -/
theorem read_null {code : Int} {message : String} (h : s.Lawful) (hs : ∀ t, s ≠ .optional t)
    (hcode : IntRange.i32.Holds code) :
    Json.read (schema s)
      (Json.render (.record [("code", .int code), ("msg", .text message), ("data", .absent)])) =
      .ok (failure code message) := by
  let value (name : String) : Datum :=
    if name = "code" then .int code else if name = "msg" then .text message else .absent
  refine Json.read_render_of_spells value (lawful_schema h hs) ?_ ⟨by simp, ?_, ?_⟩
  · simp only [List.forall_mem_cons, FieldRule.name_required, FieldRule.name_omittable]
    exact ⟨.int hcode, .text message, .absent s, nofun⟩
  · simp [value]
  · simp

theorem ofDatum?_datum {g : Datum → Option α} (h : ∀ a, g (f a) = some a) (e : Envelope α) :
    ofDatum? g (datum f e) = some e := by
  obtain ⟨code, message, data⟩ := e
  cases data with
  | none => rfl
  | some a => simp [ofDatum?, datum, Datum.field?, List.lookup_cons, Datum.int?, Datum.text?, h]

end Envelope

/-! ### Forms -/

namespace Form

theorem schema_ne_optional (f : Form) (s : Schema) : f.schema ≠ .optional s := by
  cases f <;> exact nofun

theorem lawful_schema (f : Form) : f.schema.Lawful := by
  induction f with
  | number => exact .i64
  | currency => exact Currency.lawful_schema
  | account => exact Account.lawful_schema
  | entry => exact Entry.lawful_schema
  | transfer => exact Transfer.lawful_schema
  | order => exact Order.lawful_schema
  | receipt => exact Receipt.lawful_schema
  | gatewaySettings => exact GatewaySettings.lawful_schema
  | ledgerSettings => exact LedgerSettings.lawful_schema
  | settings => exact Settings.lawful_schema
  | envelope data ih => exact Envelope.lawful_schema ih data.schema_ne_optional

/-- Data of the right shape are those of a value. -/
theorem exists_datum (f : Form) (d : Datum) (h : f.schema.Conforms d) :
    ∃ v : f.Value, f.datum v = d := by
  induction f generalizing d with
  | number =>
    obtain ⟨n, rfl⟩ := h.exists_int
    exact ⟨n, rfl⟩
  | currency => exact Currency.exists_datum h
  | account => exact Account.exists_datum h
  | entry => exact Entry.exists_datum h
  | transfer => exact Transfer.exists_datum h
  | order => exact Order.exists_datum h
  | receipt => exact Receipt.exists_datum h
  | gatewaySettings => exact GatewaySettings.exists_datum h
  | ledgerSettings => exact LedgerSettings.exists_datum h
  | settings => exact Settings.exists_datum h
  | envelope data ih => exact Envelope.exists_datum ih h

/-- A value is read from its own data. -/
theorem ofDatum?_datum (f : Form) (v : f.Value) : f.ofDatum? (f.datum v) = some v := by
  induction f with
  | number => rfl
  | currency => exact Currency.ofDatum?_datum v
  | account => exact Account.ofDatum?_datum v
  | entry => exact Entry.ofDatum?_datum v
  | transfer => exact Transfer.ofDatum?_datum v
  | order => exact Order.ofDatum?_datum v
  | receipt => exact Receipt.ofDatum?_datum v
  | gatewaySettings => exact GatewaySettings.ofDatum?_datum v
  | ledgerSettings => exact LedgerSettings.ofDatum?_datum v
  | settings => exact Settings.ofDatum?_datum v
  | envelope data ih => exact Envelope.ofDatum?_datum ih v

variable {f : Form} {text : String} {v w : f.Value}

/-- A text is read as a value if and only if its data are those that are written of the value. -/
theorem reads_iff : f.Reads text v ↔ Json.read f.schema text = .ok (f.datum v) := by
  unfold Reads read?
  cases hread : Json.read f.schema text with
  | error e => simp [Except.toOption]
  | ok d =>
    obtain ⟨w, rfl⟩ := f.exists_datum d (Json.conforms_of_read f.lawful_schema hread)
    have hvalue : ((Except.ok (f.datum w) : Except Json.Fault Datum).toOption >>= f.ofDatum?) = some w :=
      f.ofDatum?_datum w
    rw [hvalue]
    refine ⟨fun h => congrArg (Except.ok ∘ f.datum) (Option.some.inj h), fun h => ?_⟩
    rw [← f.ofDatum?_datum w, Except.ok.inj h, f.ofDatum?_datum v]

theorem Reads.unique (hv : f.Reads text v) (hw : f.Reads text w) : w = v :=
  Option.some.inj (hw.symm.trans hv)

/-- The values that can be exchanged are those whose data have the right shape: their numbers and
times are in range. -/
theorem reads_text_iff : f.Reads (f.text v) v ↔ f.schema.Conforms (f.datum v) :=
  ⟨fun h => Json.conforms_of_read f.lawful_schema (reads_iff.1 h),
    fun h => reads_iff.2 (Json.read_render h f.lawful_schema)⟩

/-- What is read at all is a value that can be exchanged. -/
theorem exists_reads (h : (Json.read f.schema text).isOk) :
    ∃ v : f.Value, f.Reads text v ∧ f.schema.Conforms (f.datum v) := by
  cases hread : Json.read f.schema text with
  | error e =>
    rw [hread] at h
    cases h
  | ok d =>
    have hconforms := Json.conforms_of_read f.lawful_schema hread
    obtain ⟨v, rfl⟩ := f.exists_datum d hconforms
    exact ⟨v, reads_iff.2 hread, hconforms⟩

end Form

/-- Every text that is read at all is read as a value, and the text that is written of this value is
read as the same value and as no other, so that it is what is written again. All values whose numbers
and times are in range are read from their texts. Settings may leave out what they have by default, and
an envelope without data may say that they are null. -/
theorem forms_round_trip :
    (∀ (f : Form) (text : String), (Json.read f.schema text).isOk →
      ∃ v : f.Value, f.Reads text v ∧ f.Reads (f.text v) v ∧
        ∀ w, f.Reads (f.text v) w → w = v ∧ f.text w = f.text v) ∧
    (∀ (f : Form) (v : f.Value), f.Reads (f.text v) v ↔ f.schema.Conforms (f.datum v)) ∧
    (∀ s : Settings, Settings.schema.Conforms s.datum → s.postgresUrl = none → s.ledger = .standard →
      Form.settings.Reads (Json.render (.record s.requiredFields)) s) ∧
    ∀ (f : Form) (code : Int) (message : String), IntRange.i32.Holds code →
      (Form.envelope f).Reads
        (Json.render (.record [("code", .int code), ("msg", .text message), ("data", .absent)]))
        ⟨code, message, none⟩ := by
  refine ⟨fun f text h => ?_, fun f v => Form.reads_text_iff,
    fun s h hurl hledger => Form.reads_iff.2 (Settings.read_requiredFields h hurl hledger),
    fun f code message hcode =>
      Form.reads_iff.2 (Envelope.read_null f.lawful_schema f.schema_ne_optional hcode)⟩
  obtain ⟨v, hread, hconforms⟩ := Form.exists_reads h
  have hagain := Form.reads_text_iff.2 hconforms
  refine ⟨v, hread, hagain, fun w hw => ?_⟩
  obtain rfl := hagain.unique hw
  exact ⟨rfl, rfl⟩

/-- Settings with an array among them, without an address of the database and without those of the
ledger. -/
def sparseSettings : String :=
  "\x7b\"gateway\":[\"h\",80], \"log_level\":\"info\",\"log_dir\":\"\\u0041\\n\",\"log_file\":\"a\"," ++
    "\"use_json\":true,\"x\":[1.5],\"rotation\":\"daily\"\x7d"

/-- An envelope of no account. -/
def nullEnvelope : String :=
  "\x7b\"msg\":\"no\",\"data\":null,\"code\":-7\x7d"

theorem forms_round_trip_with_defaults :
    (∃ s : Settings, s.postgresUrl = none ∧ s.ledger = .standard ∧
      Form.settings.Reads sparseSettings s ∧ Form.settings.Reads (Form.settings.text s) s ∧
      Form.settings.Reads (Json.render (.record s.requiredFields)) s) ∧
    (∃ e : Envelope Account, e.data = none ∧ (Form.envelope .account).Reads nullEnvelope e ∧
      (Form.envelope .account).Reads ((Form.envelope .account).text e) e) ∧
    (Form.envelope .account).Reads
      (Json.render (.record [("code", .int (-7)), ("msg", .text "no"), ("data", .absent)]))
      ⟨-7, "no", none⟩ := by
  refine ⟨?_, ?_, forms_round_trip.2.2.2 .account (-7) "no" (by decide)⟩
  · obtain ⟨s, hread, hagain, -⟩ := forms_round_trip.1 .settings sparseSettings (by decide +kernel)
    have hvalue : Form.settings.Reads sparseSettings
        ⟨"info", "A\n", "a", true, "daily", ⟨"h", 80⟩, none, .standard⟩ := by decide +kernel
    obtain rfl := hvalue.unique hread
    have hconforms := (forms_round_trip.2.1 .settings _).1 hagain
    exact ⟨_, rfl, rfl, hread, hagain, forms_round_trip.2.2.1 _ hconforms rfl rfl⟩
  · obtain ⟨e, hread, hagain, -⟩ :=
      forms_round_trip.1 (.envelope .account) nullEnvelope (by decide +kernel)
    have hvalue : (Form.envelope .account).Reads nullEnvelope ⟨-7, "no", none⟩ := by decide +kernel
    obtain rfl := hvalue.unique hread
    exact ⟨_, rfl, hread, hagain⟩

end Teller

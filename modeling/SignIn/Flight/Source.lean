import SignIn.Json.Decoder

namespace SignIn

/-- Answers for flights, one for every key. A flight is a named switch or text by which a deployment turns
behaviour on. -/
structure FlightSource where
  /-- Whether a flight is on. -/
  flag : String → Bool
  /-- The text of a flight, if it has one. -/
  text : String → Option String

/-- What kind of identifier a query key is. -/
inductive QueryKeyKind where
  | tenantId
  | appBundleId
  deriving DecidableEq, Repr

namespace QueryKeyKind

/-- The name of a kind in documents. -/
def name : QueryKeyKind → String
  | .tenantId => "tenant_id"
  | .appBundleId => "app_bundle_id"

/-- A kind as it is shown to a developer. -/
def debugText : QueryKeyKind → String
  | .tenantId => "TenantId"
  | .appBundleId => "AppBundleId"

/-- Reads a kind. -/
def decoder : Json.Decoder QueryKeyKind :=
  Json.oneOf [(name .tenantId, .tenantId), (name .appBundleId, .appBundleId)]

/-- The document of a kind. -/
def document (k : QueryKeyKind) : Json.Value :=
  .string k.name

end QueryKeyKind

/-- A fixed set of flights. -/
structure StaticFlights where
  flags : TextMap Bool
  texts : TextMap String
  deriving DecidableEq

/-- Why a document holds no set of flights. -/
structure FlightDocumentError where
  cause : Json.Error
  deriving DecidableEq, Repr

/-- The text of the error. -/
def FlightDocumentError.message (e : FlightDocumentError) : String :=
  "invalid flight configuration: " ++ e.cause.message

namespace StaticFlights

/-- No flights. -/
def empty : StaticFlights :=
  ⟨TextMap.empty, TextMap.empty⟩

/-- Sets a flag. -/
def withFlag (f : StaticFlights) (key : String) (value : Bool) : StaticFlights :=
  { f with flags := f.flags.insert key value }

/-- Sets a text. -/
def withText (f : StaticFlights) (key value : String) : StaticFlights :=
  { f with texts := f.texts.insert key value }

/-- The answers that a fixed set of flights gives: a flag that is not set is off. -/
def source (f : StaticFlights) : FlightSource where
  flag key := (f.flags.get? key).getD false
  text key := f.texts.get? key

/-- How a set of flights is written. -/
def record : Json.Record StaticFlights where
  name := "struct StaticFlightProvider"
  blank := empty
  fields :=
    [Json.field "bools" .defaulted (Json.mapOf Json.flag) fun flags f => { f with flags },
     Json.field "strings" .defaulted (Json.mapOf Json.text) fun texts f => { f with texts }]

/-- Reads a set of flights. -/
def decode (document : String) : Except FlightDocumentError StaticFlights :=
  (Json.decode record.decoder document).mapError .mk

/-- The document of a set of flights. -/
def document (f : StaticFlights) : Json.Value :=
  .object
    [("bools", .object (f.flags.entries.map fun entry => (entry.1, .boolean entry.2))),
     ("strings", .object (f.texts.entries.map fun entry => (entry.1, .string entry.2)))]

end StaticFlights

/-- The flight that turns on browser switching. -/
def switchFlight : String := "support_switch_browser_cba"

/-- The flight that makes the state of a request come back with every browser switch. -/
def switchStateFlight : String := "support_state_switch_browser_cba"

end SignIn

import MessagingPlatform.Lib.Schema
import MessagingPlatform.Contracts.Headers

/-! The versioned event contract: envelope and payload schemas, validation, the resolution of
the schema version, the upcast from v1 to v2 and the producers' builders. The texts of a payload are of
any type, by default strings; what has a format is a string. -/
namespace MessagingPlatform
open Schema

inductive ServiceId where
  | gateway
  | messaging
deriving DecidableEq

def serviceIds : List (String × ServiceId) := [("gateway",.gateway),("messaging",.messaging)]

def ServiceId.name : ServiceId → String
  | .gateway => "gateway"
  | .messaging => "messaging"

inductive SchemaVersion where
  | v1
  | v2
deriving DecidableEq

def schemaVersions : List (String × SchemaVersion) := [("1",.v1),("2",.v2)]

def SchemaVersion.name : SchemaVersion → String
  | .v1 => "1"
  | .v2 => "2"

inductive MessagePriority where
  | low
  | normal
  | high
deriving DecidableEq

def messagePriorities : List (String × MessagePriority) :=
  [("low",.low),("normal",.normal),("high",.high)]

def MessagePriority.name : MessagePriority → String
  | .low => "low"
  | .normal => "normal"
  | .high => "high"

structure CreateMessageEventV1Payload (Text : Type := String) where
  subject : Text
  content : Text
  recipient : Option Text
deriving DecidableEq

structure CreateMessageEventV2Payload (Text : Type := String) where
  subject : Text
  content : Text
  recipient : Option Text
  priority : MessagePriority
  metadata : List (Text × Text)
deriving DecidableEq

structure CreateMessageEventV1 (Text : Type := String) where
  eventId : String
  correlationId : String
  timestamp : String
  source : ServiceId
  trace : List ServiceId
  schemaVersion : Option SchemaVersion
  payload : CreateMessageEventV1Payload Text
deriving DecidableEq

structure CreateMessageEventV2 (Text : Type := String) where
  eventId : String
  correlationId : String
  timestamp : String
  source : ServiceId
  trace : List ServiceId
  payload : CreateMessageEventV2Payload Text
deriving DecidableEq

namespace CreateMessageEvent

/-- `CreateMessageEvent.name`. -/
def nameV1 : String := "CreateMessageEvent.v1"

/-- `CreateMessageEventNameV2.name`. -/
def nameV2 : String := "CreateMessageEvent.v2"

end CreateMessageEvent

def maxMetadataEntries : Nat := 20

def maxMetadataStringLength : Nat := 256

section schemas
variable (zod : Library) {Text : Type} [BEq Text] [JsText Text]

def createMessageEventV1PayloadSchema : Option (Json Text) → Parsed (CreateMessageEventV1Payload Text) :=
  object (fun fields =>
    CreateMessageEventV1Payload.mk <$> field fields "subject" (string (some 1) (some 255))
      <*> field fields "content" (string (some 1) none)
      <*> field fields "recipient" (optional (string none (some 255))))

def messageMetadataSchema (raw : Option (Json Text)) : Parsed (List (Text × Text)) :=
  (record (string (some 1) (some maxMetadataStringLength))
    (string none (some maxMetadataStringLength)) raw).refine
    (fun entries => decide (entries.length ≤ maxMetadataEntries))
    (.custom s!"metadata may not have more than {maxMetadataEntries} entries")

def createMessageEventV2PayloadSchema : Option (Json Text) → Parsed (CreateMessageEventV2Payload Text) :=
  object (fun fields =>
    CreateMessageEventV2Payload.mk <$> field fields "subject" (string (some 1) (some 255))
      <*> field fields "content" (string (some 1) none)
      <*> field fields "recipient" (optional (string none (some 255)))
      <*> field fields "priority" (withDefault .normal (oneOf messagePriorities))
      <*> field fields "metadata" (withDefault [] messageMetadataSchema))

def createMessageEventV1Schema : Option (Json Text) → Parsed (CreateMessageEventV1 Text) :=
  object (fun fields =>
    (fun eventId correlationId timestamp source trace schemaVersion (_ : Unit) payload =>
      CreateMessageEventV1.mk eventId correlationId timestamp source trace schemaVersion payload)
      <$> field fields "eventId" (formatted "uuid" zod.uuid)
      <*> field fields "correlationId" (formatted "uuid" zod.uuid)
      <*> field fields "timestamp" (formatted "datetime" zod.isoDatetime)
      <*> field fields "source" (oneOf serviceIds)
      <*> field fields "trace" (array 1 (oneOf serviceIds))
      <*> field fields "schemaVersion" (optional (oneOf schemaVersions))
      <*> field fields "type" (oneOf [(CreateMessageEvent.nameV1,())])
      <*> field fields "payload" createMessageEventV1PayloadSchema)

/-- The extension makes `schemaVersion` required, in its old place of the shape. -/
def createMessageEventV2Schema : Option (Json Text) → Parsed (CreateMessageEventV2 Text) :=
  object (fun fields =>
    (fun eventId correlationId timestamp source trace (_ : Unit) (_ : Unit) payload =>
      CreateMessageEventV2.mk eventId correlationId timestamp source trace payload)
      <$> field fields "eventId" (formatted "uuid" zod.uuid)
      <*> field fields "correlationId" (formatted "uuid" zod.uuid)
      <*> field fields "timestamp" (formatted "datetime" zod.isoDatetime)
      <*> field fields "source" (oneOf serviceIds)
      <*> field fields "trace" (array 1 (oneOf serviceIds))
      <*> field fields "schemaVersion" (oneOf [("2",())])
      <*> field fields "type" (oneOf [(CreateMessageEvent.nameV2,())])
      <*> field fields "payload" createMessageEventV2PayloadSchema)

end schemas

inductive ContractEvent (Text : Type := String) where
  | v1 (event : CreateMessageEventV1 Text)
  | v2 (event : CreateMessageEventV2 Text)
deriving DecidableEq

namespace ContractEvent
variable {Text : Type}

def eventId : ContractEvent Text → String
  | .v1 event => event.eventId
  | .v2 event => event.eventId

def correlationId : ContractEvent Text → String
  | .v1 event => event.correlationId
  | .v2 event => event.correlationId

def subject : ContractEvent Text → Text
  | .v1 event => event.payload.subject
  | .v2 event => event.payload.subject

def content : ContractEvent Text → Text
  | .v1 event => event.payload.content
  | .v2 event => event.payload.content

def recipient : ContractEvent Text → Option Text
  | .v1 event => event.payload.recipient
  | .v2 event => event.payload.recipient

end ContractEvent

structure ValidationFailureDetail where
  path : String
  message : String
deriving DecidableEq

def validationFailureDetail (zod : Library) (issue : Issue) : ValidationFailureDetail :=
  let joined := ".".intercalate issue.path
  ⟨if joined = "" then "(root)" else joined,zod.message issue.code⟩

section validation
variable {Text : Type}

def validationResult (zod : Library) : Parsed (ContractEvent Text) →
    Except (List ValidationFailureDetail) (ContractEvent Text)
  | .valid event => .ok event
  | .invalid issues _ => .error (issues.map (validationFailureDetail zod))

def validateEvent [BEq Text] [JsText Text] (zod : Library) (raw : Option (Json Text)) :
    SchemaVersion → Except (List ValidationFailureDetail) (ContractEvent Text)
  | .v1 => validationResult zod (ContractEvent.v1 <$> createMessageEventV1Schema zod raw)
  | .v2 => validationResult zod (ContractEvent.v2 <$> createMessageEventV2Schema zod raw)

end validation

def SchemaVersion.eventTypeName : SchemaVersion → String
  | .v1 => CreateMessageEvent.nameV1
  | .v2 => CreateMessageEvent.nameV2

def schemaVersionHeader : String := "x-schema-version"

def defaultSchemaVersion : SchemaVersion := .v1

/-- What `resolveSchemaVersion` may find: a JSON value or a decoded header value. -/
inductive VersionSource where
  | json (value : Json)
  | header (value : HeaderValue)

def versionOfText (text : String) : Option SchemaVersion := schemaVersions.lookup text.jsTrim

def coerceToSchemaVersion (engine : Engine) : VersionSource → Option SchemaVersion
  | .json (.str text) | .header (.str text) | .header (.buffer text) => versionOfText text
  | .json (.num value) => versionOfText (engine.print (.finite value))
  | .header (.num value) => versionOfText (engine.print value)
  | .json _ | .header (.json _) => none

/-- The digits that `/\.v(\d+)$/` captures. -/
def typeSuffix (text : String) : Option String :=
  let reversed := text.toList.reverse
  let digits := reversed.takeWhile Char.isDigit
  match digits, reversed.drop digits.length with
  | _ :: _, 'v' :: '.' :: _ => some (String.ofList digits.reverse)
  | _, _ => none

def extractFromTypeSuffix : Option Json → Option SchemaVersion
  | some (.str text) => (typeSuffix text).bind versionOfText
  | _ => none

def readEnvelope (envelope : Option Json) (name : String) : Option Json :=
  envelope.bind (fun value => value.get? name)

structure SchemaVersionSources where
  envelope : Option Json
  header : Option HeaderValue
  type : Option Json

def resolveSchemaVersion (engine : Engine) (sources : SchemaVersionSources) : SchemaVersion :=
  let fromEnvelopeField := (readEnvelope sources.envelope "schemaVersion").bind
    (fun value => coerceToSchemaVersion engine (.json value))
  let fromHeader := sources.header.bind (fun value => coerceToSchemaVersion engine (.header value))
  let fromType := extractFromTypeSuffix (sources.type.or (readEnvelope sources.envelope "type"))
  ((fromEnvelopeField.or fromHeader).or fromType).getD defaultSchemaVersion

section written
variable {Text : Type} [JsText Text]

/-- The payload defaults are those of the v2 schema on the three fields of v1. -/
def upcastPayload [BEq Text] (payload : CreateMessageEventV1Payload Text) :
    Parsed (CreateMessageEventV2Payload Text) :=
  createMessageEventV2PayloadSchema (some (Json.ofFields [
    ("subject",some (.str payload.subject)),
    ("content",some (.str payload.content)),
    ("recipient",payload.recipient.map .str)]))

/-- Throws the schema's error when the payload does not parse. -/
def upcastCreateMessageEventV1ToV2 [BEq Text] (v1 : CreateMessageEventV1 Text) :
    Parsed (CreateMessageEventV2 Text) :=
  (fun payload => ⟨v1.eventId,v1.correlationId,v1.timestamp,v1.source,v1.trace,payload⟩) <$>
    upcastPayload v1.payload

def CreateMessageEventV1Payload.toJson (payload : CreateMessageEventV1Payload Text) : Json Text :=
  Json.ofFields [
    ("subject",some (.str payload.subject)),
    ("content",some (.str payload.content)),
    ("recipient",payload.recipient.map .str)]

def CreateMessageEventV2Payload.toJson (payload : CreateMessageEventV2Payload Text) : Json Text :=
  Json.ofFields [
    ("subject",some (.str payload.subject)),
    ("content",some (.str payload.content)),
    ("recipient",payload.recipient.map .str),
    ("priority",some (.string payload.priority.name)),
    ("metadata",some (.obj (payload.metadata.map (fun entry => (entry.1,.str entry.2)))))]

def ContractEvent.toJson : ContractEvent Text → Json Text
  | .v1 event => Json.ofFields [
      ("eventId",some (.string event.eventId)),
      ("correlationId",some (.string event.correlationId)),
      ("timestamp",some (.string event.timestamp)),
      ("source",some (.string event.source.name)),
      ("trace",some (.arr (event.trace.map (fun id => .string id.name)))),
      ("schemaVersion",event.schemaVersion.map (fun version => .string version.name)),
      ("type",some (.string CreateMessageEvent.nameV1)),
      ("payload",some event.payload.toJson)]
  | .v2 event => Json.ofFields [
      ("eventId",some (.string event.eventId)),
      ("correlationId",some (.string event.correlationId)),
      ("timestamp",some (.string event.timestamp)),
      ("source",some (.string event.source.name)),
      ("trace",some (.arr (event.trace.map (fun id => .string id.name)))),
      ("schemaVersion",some (.string "2")),
      ("type",some (.string CreateMessageEvent.nameV2)),
      ("payload",some event.payload.toJson)]

end written

/-- The payload is handed on as it is. A correlation id that is undefined at run time leaves its
member out. -/
def buildCreateMessageEventV1 (payload : Json) (correlationId : Option String) (randomUUID : String)
    (now : Int) : Json :=
  Json.ofFields [
    ("type",some (.str CreateMessageEvent.nameV1)),
    ("eventId",some (.str randomUUID)),
    ("correlationId",correlationId.map .str),
    ("timestamp",some (.str (toIsoString now))),
    ("source",some (.str ServiceId.gateway.name)),
    ("trace",some (.arr [.str ServiceId.gateway.name])),
    ("payload",some payload)]

/-- Throws the schema's error when the payload does not parse. -/
def buildCreateMessageEventV2 (payload : Json) (correlationId : Option String) (randomUUID : String)
    (now : Int) : Parsed Json :=
  (fun (payload : CreateMessageEventV2Payload) => Json.ofFields [
    ("type",some (.str CreateMessageEvent.nameV2)),
    ("schemaVersion",some (.str "2")),
    ("eventId",some (.str randomUUID)),
    ("correlationId",correlationId.map .str),
    ("timestamp",some (.str (toIsoString now))),
    ("source",some (.str ServiceId.gateway.name)),
    ("trace",some (.arr [.str ServiceId.gateway.name])),
    ("payload",some payload.toJson)]) <$> createMessageEventV2PayloadSchema (some payload)

def sampleLibrary : Library := ⟨fun _ => true,fun _ => true,fun _ => "",fun _ => ""⟩

def sampleEvent : Json := .obj [
  ("type",.str "CreateMessageEvent.v1"),
  ("eventId",.str "11111111-1111-4111-8111-111111111111"),
  ("correlationId",.str "22222222-2222-4222-8222-222222222222"),
  ("timestamp",.str "2026-01-01T00:00:00.000Z"),
  ("source",.str "gateway"),
  ("trace",.arr [.str "gateway"]),
  ("payload",.obj [("subject",.str "System test message"),("content",.str "Hello RabbitMQ!")])]

end MessagingPlatform

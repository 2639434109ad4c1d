import MessagingPlatform.Consumer.Dispatch
import MessagingPlatform.Consumer.System
import MessagingPlatform.Outbox.System

/-! Whether the consumer processes what the gateway's builders built: an event that was
validated, stored as JSON, published and parsed again. -/
namespace MessagingPlatform.Gateway
open Schema Json Outbox Consumer

/-- What the library promises of the values that the platform generates. -/
structure Generated (zod : Library) (randomUUID : String) (now : Int) : Prop where
  uuid : zod.uuid randomUUID = true
  isoDatetime : zod.isoDatetime (toIsoString now) = true

def builtEnvelope (correlationId randomUUID : String) (now : Int) : EventEnvelope :=
  ⟨randomUUID,correlationId,toIsoString now,.gateway,[.gateway]⟩

variable {zod : Library} {randomUUID correlationId : String} {now : Int}

theorem builtEnvelope_formed (generated : Generated zod randomUUID now)
    (correlated : zod.uuid correlationId = true) :
    (builtEnvelope correlationId randomUUID now).Formed zod :=
  ⟨generated.uuid,correlated,generated.isoDatetime,Nat.le_refl 1⟩

theorem v1_built (generated : Generated zod randomUUID now) (correlated : zod.uuid correlationId = true)
    {raw : Json} {payload : CreateMessageEventV1Payload}
    (accepted : createMessageEventV1PayloadSchema (some raw) = .valid payload) :
    createMessageEventV1Schema zod
        (some (buildCreateMessageEventV1 raw (some correlationId) randomUUID now)) =
      .valid ⟨randomUUID,correlationId,toIsoString now,.gateway,[.gateway],none,payload⟩ := by
  let fields : List (String × Option Json) := [
    ("type",some (.str CreateMessageEvent.nameV1)),("eventId",some (.str randomUUID)),
    ("correlationId",some (.str correlationId)),("timestamp",some (.str (toIsoString now))),
    ("source",some (.str ServiceId.gateway.name)),("trace",some (.arr [.str ServiceId.gateway.name])),
    ("payload",some raw)]
  have written : ∀ name value, (name,value) ∈ fields →
      (fields.filterMap (fun field => field.2.map (fun value => (field.1,value)))).lookup name = value :=
    fun name value => lookup_ofFields (by simp [fields])
  have unnamed : (fields.filterMap (fun field => field.2.map (fun value => (field.1,value)))).lookup
      "schemaVersion" = none := get?_ofFields_none (by simp)
  have contained : (builtEnvelope correlationId randomUUID now).members ⊆ fields := by
    simp [EventEnvelope.members,builtEnvelope,fields]
  have read : (builtEnvelope correlationId randomUUID now).ReadFrom _ :=
    .of_members (fun name value member => written name value (contained member))
  have type := written "type" (some (.str CreateMessageEvent.nameV1)) (by simp [fields])
  have payload_written := written "payload" (some raw) (by simp [fields])
  exact v1Event_valid.mpr ⟨builtEnvelope_formed generated correlated,_,rfl,read,unnamed,type,
    payload_written ▸ accepted⟩

theorem v2_built (generated : Generated zod randomUUID now) (correlated : zod.uuid correlationId = true)
    {raw : Json} {payload : CreateMessageEventV2Payload}
    (accepted : createMessageEventV2PayloadSchema (some raw) = .valid payload) : ∃ built kept,
    buildCreateMessageEventV2 raw (some correlationId) randomUUID now = .valid built ∧
      kept.Perm payload.metadata ∧ createMessageEventV2Schema zod (some built) =
        .valid ⟨randomUUID,correlationId,toIsoString now,.gateway,[.gateway],{ payload with metadata := kept }⟩ := by
  let fields : List (String × Option Json) := [
    ("type",some (.str CreateMessageEvent.nameV2)),("schemaVersion",some (.str "2")),
    ("eventId",some (.str randomUUID)),
    ("correlationId",some (.str correlationId)),("timestamp",some (.str (toIsoString now))),
    ("source",some (.str ServiceId.gateway.name)),("trace",some (.arr [.str ServiceId.gateway.name])),
    ("payload",some payload.toJson)]
  have built : buildCreateMessageEventV2 raw (some correlationId) randomUUID now = .valid (ofFields fields) := by
    unfold buildCreateMessageEventV2
    rw [accepted]
    rfl
  have written : ∀ name value, (name,value) ∈ fields →
      (fields.filterMap (fun field => field.2.map (fun value => (field.1,value)))).lookup name = value :=
    fun name value => lookup_ofFields (by simp [fields])
  have contained : (builtEnvelope correlationId randomUUID now).members ⊆ fields := by
    simp [EventEnvelope.members,builtEnvelope,fields]
  have read : (builtEnvelope correlationId randomUUID now).ReadFrom _ :=
    .of_members (fun name value member => written name value (contained member))
  have version := written "schemaVersion" (some (.str "2")) (by simp [fields])
  have type := written "type" (some (.str CreateMessageEvent.nameV2)) (by simp [fields])
  have payload_written := written "payload" (some payload.toJson) (by simp [fields])
  obtain ⟨kept,moved,reread⟩ := v2Payload_stored (v2Payload_formed accepted) (Reordered.refl payload.toJson)
  exact ⟨_,kept,built,moved,v2Event_valid.mpr ⟨builtEnvelope_formed generated correlated,_,rfl,read,version,
    type,payload_written ▸ reread⟩⟩

/-- The gateway's relay writes no schema version next to the trace context. -/
theorem relay_header_absent (row : ClaimedRow) {carrier : TraceCarrier}
    (propagated : ∀ entry ∈ carrier, entry.1 ∈ traceHeaders) :
    MessagingController.readSchemaVersionHeader
      (gatewayOutboxRelayService.publication row carrier).headers = none := by
  have apart : schemaVersionHeader ∉ (carrier.map (fun entry => (entry.1,HeaderValue.str entry.2))).map Prod.fst := by
    intro among
    rw [List.map_map,List.mem_map] at among
    obtain ⟨entry,member,same⟩ := among
    have trace := propagated entry member
    have name : entry.1 = schemaVersionHeader := same
    rw [name] at trace
    exact absurd trace (by decide)
  exact (Headers.lookup_spread apart).trans rfl

structure Agrees (engine : Engine) (zod : Library) (version : SchemaVersion) (envelope : EventEnvelope)
    (payload : CreateMessageEventV2Payload) (delivery : Delivery) (processed : CreateMessageEventV2) : Prop where
  resolved : MessagingController.schemaVersion engine delivery.headers delivery.data = version
  handled : MessagingController.handleMessage engine zod delivery =
    MessagingController.handleValid engine delivery version.eventTypeName processed
  envelope : processed.envelope = envelope
  subject : processed.payload.subject = payload.subject
  content : processed.payload.content = payload.content
  recipient : processed.payload.recipient = payload.recipient
  priority : processed.payload.priority = payload.priority
  metadata : processed.payload.metadata.Perm payload.metadata

def Delivers (event : ContractEvent) (delivery : Delivery) : Prop :=
  ∃ (row : OutboxEvent) (carrier : TraceCarrier), Reordered event.toJson row.payload ∧
    (∀ entry ∈ carrier, entry.1 ∈ traceHeaders) ∧
    delivery.headers = (gatewayOutboxRelayService.publication row.claimed carrier).headers ∧
    delivery.data = (gatewayOutboxRelayService.publication row.claimed carrier).body.parse

theorem delivers_stored {event : ContractEvent} {delivery : Delivery} (delivers : Delivers event delivery) :
    ∃ stored, delivery.data = some stored ∧ Reordered event.toJson stored ∧
      MessagingController.readSchemaVersionHeader delivery.headers = none := by
  obtain ⟨row,carrier,same,propagated,headers,data⟩ := delivers
  refine ⟨row.payload,data,same,?_⟩
  rw [headers]
  exact relay_header_absent row.claimed propagated

variable {engine : Engine} {delivery : Delivery}

theorem v1_agrees {v1 : CreateMessageEventV1} {raw : Option Json} (unnamed : v1.schemaVersion = none)
    (valid : createMessageEventV1Schema zod raw = .valid v1) (delivers : Delivers (.v1 v1) delivery) :
    ∃ processed, Agrees engine zod .v1 v1.envelope
      ⟨v1.payload.subject,v1.payload.content,v1.payload.recipient,.normal,[]⟩ delivery processed := by
  obtain ⟨stored,data,same,header⟩ := delivers_stored delivers
  obtain ⟨envelope,_,_,_,_,_,payload⟩ := v1Event_valid.mp valid
  have reread := v1Event_stored envelope (v1Payload_valid.mp payload).1 same
  obtain ⟨_,fields,body,_,version,type,_⟩ := v1Event_valid.mp reread
  obtain rfl := Option.some.inj body
  rw [unnamed,Option.map_none] at version
  have resolved : MessagingController.schemaVersion engine delivery.headers delivery.data = .v1 := by
    unfold MessagingController.schemaVersion
    rw [data,header]
    exact resolve_unnamed version type
  have accepted : validateEvent zod delivery.data .v1 = .ok (.v1 v1) :=
    validateEvent_v1.mpr ⟨v1,rfl,data ▸ reread⟩
  have handled := handled_of_resolved resolved accepted (upcast_valid reread)
  exact ⟨_,resolved,handled,rfl,rfl,rfl,rfl,rfl,.refl []⟩

theorem v2_agrees {v2 : CreateMessageEventV2} {raw : Option Json}
    (valid : createMessageEventV2Schema zod raw = .valid v2) (delivers : Delivers (.v2 v2) delivery) :
    ∃ processed, Agrees engine zod .v2 v2.envelope v2.payload delivery processed := by
  obtain ⟨stored,data,same,header⟩ := delivers_stored delivers
  obtain ⟨envelope,_,_,_,_,_,payload⟩ := v2Event_valid.mp valid
  obtain ⟨kept,moved,reread⟩ := v2Event_stored envelope (v2Payload_formed payload) same
  obtain ⟨_,fields,body,_,version,_,_⟩ := v2Event_valid.mp reread
  obtain rfl := Option.some.inj body
  have named : fields.lookup "schemaVersion" = some (.str SchemaVersion.v2.name) := version
  have resolved : MessagingController.schemaVersion engine delivery.headers delivery.data = .v2 := by
    rw [data]
    exact resolve_named named
  have accepted := validateEvent_v2.mpr ⟨_,rfl,data ▸ reread⟩
  have handled := handled_of_resolved resolved accepted rfl
  exact ⟨_,resolved,handled,rfl,rfl,rfl,rfl,rfl,moved⟩

/-- What the gateway builds from an accepted payload validates, and whatever of it reaches the
handler through the outbox is processed with the same content. A validated event stays the
same event when it is stored as JSON and validated again. -/
theorem content_agrees (engine : Engine) (zod : Library) (raw : Json) (correlationId randomUUID : String)
    (now : Int) (generated : Generated zod randomUUID now) (correlated : zod.uuid correlationId = true) :
    (∀ payload, createMessageEventV1PayloadSchema (some raw) = .valid payload → ∃ event,
      validateEvent zod (some (buildCreateMessageEventV1 raw (some correlationId) randomUUID now)) .v1 =
        .ok event ∧
      ∀ delivery, Delivers event delivery → ∃ processed, Agrees engine zod .v1
        (builtEnvelope correlationId randomUUID now)
        ⟨payload.subject,payload.content,payload.recipient,.normal,[]⟩ delivery processed) ∧
    (∀ payload, createMessageEventV2PayloadSchema (some raw) = .valid payload → ∃ built event,
      buildCreateMessageEventV2 raw (some correlationId) randomUUID now = .valid built ∧
      validateEvent zod (some built) .v2 = .ok event ∧
      ∀ delivery, Delivers event delivery → ∃ processed, Agrees engine zod .v2
        (builtEnvelope correlationId randomUUID now) payload delivery processed) ∧
    ∀ version body event stored, validateEvent zod body version = .ok event →
      Reordered event.toJson stored →
      ∃ again, validateEvent zod (some stored) version = .ok again ∧ event.Same again := by
  refine ⟨?_,?_,?_⟩
  · intro payload accepted
    have valid := v1_built generated correlated accepted
    exact ⟨_,validateEvent_v1.mpr ⟨_,rfl,valid⟩,fun delivery delivers => v1_agrees rfl valid delivers⟩
  · intro payload accepted
    obtain ⟨built,kept,parsed,moved,valid⟩ := v2_built generated correlated accepted
    refine ⟨built,_,parsed,validateEvent_v2.mpr ⟨_,rfl,valid⟩,?_⟩
    intro delivery delivers
    obtain ⟨processed,agrees⟩ := v2_agrees valid delivers
    exact ⟨processed,{ agrees with metadata := agrees.metadata.trans moved }⟩
  · intro version body event stored accepted same
    exact validateEvent_stored accepted same

def samplePayload : Json :=
  .obj [("subject",.str "System test message"),("content",.str "Hello RabbitMQ!")]

theorem test_message_agrees : ∃ event,
    validateEvent sampleLibrary (some (buildCreateMessageEventV1 samplePayload
      (some "22222222-2222-4222-8222-222222222222") "11111111-1111-4111-8111-111111111111" 0)) .v1 =
      .ok event ∧
    ∀ delivery, Delivers event delivery → ∃ processed, Agrees sampleEngine sampleLibrary .v1
      (builtEnvelope "22222222-2222-4222-8222-222222222222" "11111111-1111-4111-8111-111111111111" 0)
      ⟨"System test message","Hello RabbitMQ!",none,.normal,[]⟩ delivery processed :=
  (content_agrees sampleEngine sampleLibrary samplePayload "22222222-2222-4222-8222-222222222222"
    "11111111-1111-4111-8111-111111111111" 0 ⟨rfl,rfl⟩ rfl).1 _ rfl

end MessagingPlatform.Gateway

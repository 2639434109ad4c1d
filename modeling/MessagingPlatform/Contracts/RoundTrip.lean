import MessagingPlatform.Lib.Reorder
import MessagingPlatform.Contracts.Events

/-! What the event schemas accept, and what they make of an event that was stored as JSON and
read back. -/
namespace MessagingPlatform
open Schema Json

section texts
variable {Text : Type} [JsText Text] {raw : Option (Json Text)}

theorem oneOf_named {A : Type} {values : List (String × A)} {name : A → String}
    (named : ∀ text value, values.lookup text = some value ↔ text = name value)
    {value : A} : oneOf values raw = .valid value ↔ raw = some (.string (name value)) := by
  simp only [oneOf_valid,named]
  constructor
  · intro accepted
    obtain ⟨text,same,rfl⟩ := accepted
    exact same
  · intro same
    exact ⟨name value,same,rfl⟩

theorem serviceIds_lookup (text : String) (id : ServiceId) :
    serviceIds.lookup text = some id ↔ text = id.name := by
  rw [lookup_iff_mem (by decide)]
  cases id <;> simp [serviceIds,ServiceId.name]

theorem schemaVersions_lookup (text : String) (version : SchemaVersion) :
    schemaVersions.lookup text = some version ↔ text = version.name := by
  rw [lookup_iff_mem (by decide)]
  cases version <;> simp [schemaVersions,SchemaVersion.name]

theorem messagePriorities_lookup (text : String) (priority : MessagePriority) :
    messagePriorities.lookup text = some priority ↔ text = priority.name := by
  rw [lookup_iff_mem (by decide)]
  cases priority <;> simp [messagePriorities,MessagePriority.name]

theorem literal_lookup (name text : String) (value : Unit) :
    [(name,())].lookup text = some value ↔ text = name := by
  rw [lookup_iff_mem (by simp)]
  simp

theorem trace_valid {trace : List ServiceId} :
    array 1 (oneOf serviceIds) raw = .valid trace ↔
      raw = some (.arr (trace.map (fun id => .string id.name))) ∧ 1 ≤ trace.length := by
  have item : ∀ items : List (Json Text), List.Forall₂
      (fun item value => oneOf serviceIds (some item) = .valid value) items trace ↔
      items = trace.map (fun id => .string id.name) := by
    intro items
    simp only [oneOf_named serviceIds_lookup,Option.some.injEq]
    rw [← List.forall₂_map_right_iff (f := fun id : ServiceId => (Json.string id.name : Json Text)) (R := Eq)]
    exact List.forall₂_eq_eq_eq ▸ Iff.rfl
  simp only [array_valid,item]
  constructor
  · intro accepted
    obtain ⟨items,same,enough,rfl⟩ := accepted
    exact ⟨same,by simpa using enough⟩
  · intro accepted
    obtain ⟨same,enough⟩ := accepted
    exact ⟨_,same,by simpa using enough,rfl⟩

/-! What a validated value satisfies. -/

structure CreateMessageEventV1Payload.Formed (payload : CreateMessageEventV1Payload Text) : Prop where
  subject : Within (some 1) (some 255) payload.subject
  content : Within (some 1) none payload.content
  recipient : ∀ text, payload.recipient = some text → Within none (some 255) text

theorem recipient_valid {recipient : Option Text} :
    optional (string none (some 255)) raw = .valid recipient ↔
      raw = recipient.map .str ∧ ∀ text, recipient = some text → Within none (some 255) text := by
  rw [optional_valid]
  cases recipient with
  | none => simp
  | some text =>
    simp only [string_valid,Option.map_some,Option.some.injEq,reduceCtorEq,and_false,false_or]
    constructor
    · intro accepted
      obtain ⟨json,part,rfl,rfl,rfl,within⟩ := accepted
      exact ⟨rfl,fun _ same => same ▸ within⟩
    · intro accepted
      exact ⟨.str text,text,accepted.1,rfl,rfl,accepted.2 text rfl⟩

/-- The v1 schema reads the three fields and nothing else. -/
theorem v1Payload_valid [BEq Text] {payload : CreateMessageEventV1Payload Text} :
    createMessageEventV1PayloadSchema raw = .valid payload ↔ payload.Formed ∧ ∃ fields,
      raw = some (.obj fields) ∧ fields.lookup (JsText.ofString "subject") = some (.str payload.subject) ∧
      fields.lookup (JsText.ofString "content") = some (.str payload.content) ∧
      fields.lookup (JsText.ofString "recipient") = payload.recipient.map .str := by
  unfold createMessageEventV1PayloadSchema
  simp only [object_valid,seq_valid,map_valid,field_valid,string_valid,recipient_valid]
  constructor
  · intro accepted
    obtain ⟨fields,same,_,recipient,⟨_,content,⟨subject,⟨read_subject,formed_subject⟩,rfl⟩,
      ⟨read_content,formed_content⟩,rfl⟩,⟨read_recipient,formed_recipient⟩,rfl⟩ := accepted
    exact ⟨⟨formed_subject,formed_content,formed_recipient⟩,fields,same,read_subject,read_content,
      read_recipient⟩
  · intro accepted
    obtain ⟨formed,fields,same,subject,content,recipient⟩ := accepted
    exact ⟨fields,same,_,_,⟨_,_,⟨_,⟨subject,formed.subject⟩,rfl⟩,⟨content,formed.content⟩,rfl⟩,
      ⟨recipient,formed.recipient⟩,rfl⟩

theorem forall₂_spelled {A B : Type} {spell : B → A} {Q : B → Prop} {items : List A} {values : List B} :
    List.Forall₂ (fun item value => item = spell value ∧ Q value) items values ↔
      items = values.map spell ∧ ∀ value ∈ values, Q value := by
  induction values generalizing items with
  | nil => simp
  | cons value rest ih =>
    cases items with
    | nil => simp
    | cons item others =>
      simp only [List.forall₂_cons,ih,List.map_cons,List.cons.injEq,List.forall_mem_cons]
      tauto

def spelled (entry : Text × Text) : Text × Json Text := (entry.1,.str entry.2)

def EntryFormed (entry : Text × Text) : Prop :=
  Within (some 1) (some maxMetadataStringLength) entry.1 ∧ Within none (some maxMetadataStringLength) entry.2

theorem entry_valid {field : Text × Json Text} {entry : Text × Text} :
    (string (some 1) (some maxMetadataStringLength) (some (.str field.1)) = .valid entry.1 ∧
      string none (some maxMetadataStringLength) (some field.2) = .valid entry.2) ↔
    field = spelled entry ∧ EntryFormed entry := by
  obtain ⟨name,value⟩ := field
  simp only [string_valid,Option.some.injEq,Json.str.injEq,spelled,EntryFormed,Prod.mk.injEq]
  tauto

/-- The entries of the record are kept, but for one key, and counted. -/
theorem metadata_valid [BEq Text] {metadata : List (Text × Text)} :
    messageMetadataSchema raw = .valid metadata ↔
      (∃ fields, raw = some (.obj fields) ∧
        fields.filter (fun entry => entry.1 != JsText.ofString "__proto__") = metadata.map spelled) ∧
      (∀ entry ∈ metadata, EntryFormed entry) ∧ metadata.length ≤ maxMetadataEntries := by
  unfold messageMetadataSchema
  rw [refine_valid,record_valid]
  simp only [entry_valid,forall₂_spelled,decide_eq_true_eq]
  constructor
  · intro accepted
    obtain ⟨⟨fields,same,kept,formed⟩,few⟩ := accepted
    exact ⟨⟨fields,same,kept⟩,formed,few⟩
  · intro accepted
    obtain ⟨⟨fields,same,kept⟩,formed,few⟩ := accepted
    exact ⟨⟨fields,same,kept,formed⟩,few⟩

structure CreateMessageEventV2Payload.Formed [BEq Text] (payload : CreateMessageEventV2Payload Text) : Prop where
  subject : Within (some 1) (some 255) payload.subject
  content : Within (some 1) none payload.content
  recipient : ∀ text, payload.recipient = some text → Within none (some 255) text
  metadata : ∃ raw, messageMetadataSchema raw = .valid payload.metadata

theorem v2Payload_valid [BEq Text] {payload : CreateMessageEventV2Payload Text} :
    createMessageEventV2PayloadSchema raw = .valid payload ↔ ∃ fields, raw = some (.obj fields) ∧
      (fields.lookup (JsText.ofString "subject") = some (.str payload.subject) ∧
        Within (some 1) (some 255) payload.subject) ∧
      (fields.lookup (JsText.ofString "content") = some (.str payload.content) ∧ Within (some 1) none payload.content) ∧
      (fields.lookup (JsText.ofString "recipient") = payload.recipient.map .str ∧
        ∀ text, payload.recipient = some text → Within none (some 255) text) ∧
      withDefault .normal (oneOf messagePriorities) (fields.lookup (JsText.ofString "priority")) = .valid payload.priority ∧
      withDefault [] messageMetadataSchema (fields.lookup (JsText.ofString "metadata")) = .valid payload.metadata := by
  unfold createMessageEventV2PayloadSchema
  simp only [object_valid,seq_valid,map_valid,field_valid,string_valid,recipient_valid]
  constructor
  · intro accepted
    obtain ⟨fields,same,_,metadata,⟨_,priority,⟨_,recipient,⟨_,content,⟨subject,read_subject,rfl⟩,
      read_content,rfl⟩,read_recipient,rfl⟩,read_priority,rfl⟩,read_metadata,rfl⟩ := accepted
    exact ⟨fields,same,read_subject,read_content,read_recipient,read_priority,read_metadata⟩
  · intro accepted
    obtain ⟨fields,same,subject,content,recipient,priority,metadata⟩ := accepted
    exact ⟨fields,same,_,_,⟨_,_,⟨_,_,⟨_,_,⟨_,subject,rfl⟩,content,rfl⟩,recipient,rfl⟩,priority,rfl⟩,
      metadata,rfl⟩

theorem v2Payload_formed [BEq Text] {payload : CreateMessageEventV2Payload Text}
    (accepted : createMessageEventV2PayloadSchema raw = .valid payload) : payload.Formed := by
  obtain ⟨fields,_,subject,content,recipient,_,metadata⟩ := v2Payload_valid.mp accepted
  refine ⟨subject.2,content.2,recipient.2,?_⟩
  rcases withDefault_valid.mp metadata with ⟨_,empty⟩ | ⟨json,_,read⟩
  · exact ⟨some (.obj []),empty ▸ rfl⟩
  · exact ⟨some json,read⟩

theorem upcastPayload_valid [BEq Text] [LawfulBEq Text] {payload : CreateMessageEventV1Payload Text}
    (formed : payload.Formed) :
    upcastPayload payload = .valid ⟨payload.subject,payload.content,payload.recipient,.normal,[]⟩ := by
  let fields : List (String × Option (Json Text)) := [("subject",some (.str payload.subject)),
    ("content",some (.str payload.content)),("recipient",payload.recipient.map .str)]
  have written : ∀ name value, (name,value) ∈ fields → (fields.filterMap
      (fun field => field.2.map (fun value => (JsText.ofString field.1,value)))).lookup
        (JsText.ofString name : Text) = value :=
    fun name value => lookup_ofFields (by simp [fields])
  have absent : ∀ name, name ∉ fields.map Prod.fst → (fields.filterMap
      (fun field => field.2.map (fun value => (JsText.ofString field.1,value)))).lookup
        (JsText.ofString name : Text) = none :=
    fun name => lookup_ofFields_none
  exact v2Payload_valid.mpr ⟨_,rfl,⟨written "subject" _ (by simp [fields]),formed.subject⟩,
    ⟨written "content" _ (by simp [fields]),formed.content⟩,
    ⟨written "recipient" _ (by simp [fields]),formed.recipient⟩,
    withDefault_valid.mpr (.inl ⟨absent "priority" (by simp [fields]),rfl⟩),
    withDefault_valid.mpr (.inl ⟨absent "metadata" (by simp [fields]),rfl⟩)⟩

structure EventEnvelope where
  eventId : String
  correlationId : String
  timestamp : String
  source : ServiceId
  trace : List ServiceId

def CreateMessageEventV1.envelope {Text : Type} (event : CreateMessageEventV1 Text) : EventEnvelope :=
  ⟨event.eventId,event.correlationId,event.timestamp,event.source,event.trace⟩

def CreateMessageEventV2.envelope {Text : Type} (event : CreateMessageEventV2 Text) : EventEnvelope :=
  ⟨event.eventId,event.correlationId,event.timestamp,event.source,event.trace⟩

namespace EventEnvelope

structure Formed (zod : Library) (envelope : EventEnvelope) : Prop where
  eventId : zod.uuid envelope.eventId = true
  correlationId : zod.uuid envelope.correlationId = true
  timestamp : zod.isoDatetime envelope.timestamp = true
  trace : 1 ≤ envelope.trace.length

structure ReadFrom [BEq Text] (fields : List (Text × Json Text)) (envelope : EventEnvelope) : Prop where
  eventId : fields.lookup (JsText.ofString "eventId") = some (.string envelope.eventId)
  correlationId : fields.lookup (JsText.ofString "correlationId") = some (.string envelope.correlationId)
  timestamp : fields.lookup (JsText.ofString "timestamp") = some (.string envelope.timestamp)
  source : fields.lookup (JsText.ofString "source") = some (.string envelope.source.name)
  trace : fields.lookup (JsText.ofString "trace") =
    some (.arr (envelope.trace.map (fun id => .string id.name)))

end EventEnvelope

variable {zod : Library}

theorem version_valid {version : Option SchemaVersion} :
    optional (oneOf schemaVersions) raw = .valid version ↔
      raw = version.map (fun version => .string version.name) := by
  rw [optional_valid]
  simp only [oneOf_named schemaVersions_lookup]
  cases version with
  | none => simp
  | some version => simp

variable [BEq Text]

/-- What the v1 schema accepts is the envelope, the type and a payload that the payload schema accepts. -/
theorem v1Event_valid {event : CreateMessageEventV1 Text} :
    createMessageEventV1Schema zod raw = .valid event ↔ event.envelope.Formed zod ∧ ∃ fields,
      raw = some (.obj fields) ∧ event.envelope.ReadFrom fields ∧
      fields.lookup (JsText.ofString "schemaVersion") = event.schemaVersion.map (fun version => .string version.name) ∧
      fields.lookup (JsText.ofString "type") = some (.string CreateMessageEvent.nameV1) ∧
      createMessageEventV1PayloadSchema (fields.lookup (JsText.ofString "payload")) = .valid event.payload := by
  unfold createMessageEventV1Schema
  simp only [object_valid,seq_valid,map_valid,field_valid,formatted_valid,
    oneOf_named serviceIds_lookup,trace_valid,version_valid,
    oneOf_named (literal_lookup CreateMessageEvent.nameV1)]
  constructor
  · intro accepted
    obtain ⟨fields,same,_,payload,⟨_,_,⟨_,version,⟨_,trace,⟨_,source,⟨_,timestamp,⟨_,correlationId,
      ⟨eventId,⟨read_id,uuid⟩,rfl⟩,⟨read_correlation,correlation_uuid⟩,rfl⟩,⟨read_time,datetime⟩,rfl⟩,
      read_source,rfl⟩,⟨read_trace,traced⟩,rfl⟩,read_version,rfl⟩,read_type,rfl⟩,read_payload,rfl⟩ := accepted
    exact ⟨⟨uuid,correlation_uuid,datetime,traced⟩,fields,same,
      ⟨read_id,read_correlation,read_time,read_source,read_trace⟩,read_version,read_type,read_payload⟩
  · intro accepted
    obtain ⟨formed,fields,same,read,version,type,payload⟩ := accepted
    exact ⟨fields,same,_,_,⟨_,(),⟨_,_,⟨_,_,⟨_,_,⟨_,_,⟨_,_,⟨_,⟨read.eventId,formed.eventId⟩,rfl⟩,
      ⟨read.correlationId,formed.correlationId⟩,rfl⟩,⟨read.timestamp,formed.timestamp⟩,rfl⟩,
      read.source,rfl⟩,⟨read.trace,formed.trace⟩,rfl⟩,version,rfl⟩,type,rfl⟩,payload,rfl⟩

theorem v2Event_valid {event : CreateMessageEventV2 Text} :
    createMessageEventV2Schema zod raw = .valid event ↔ event.envelope.Formed zod ∧ ∃ fields,
      raw = some (.obj fields) ∧ event.envelope.ReadFrom fields ∧
      fields.lookup (JsText.ofString "schemaVersion") = some (.string "2") ∧
      fields.lookup (JsText.ofString "type") = some (.string CreateMessageEvent.nameV2) ∧
      createMessageEventV2PayloadSchema (fields.lookup (JsText.ofString "payload")) = .valid event.payload := by
  unfold createMessageEventV2Schema
  simp only [object_valid,seq_valid,map_valid,field_valid,formatted_valid,
    oneOf_named serviceIds_lookup,trace_valid,oneOf_named (literal_lookup "2"),
    oneOf_named (literal_lookup CreateMessageEvent.nameV2)]
  constructor
  · intro accepted
    obtain ⟨fields,same,_,payload,⟨_,_,⟨_,_,⟨_,trace,⟨_,source,⟨_,timestamp,⟨_,correlationId,
      ⟨eventId,⟨read_id,uuid⟩,rfl⟩,⟨read_correlation,correlation_uuid⟩,rfl⟩,⟨read_time,datetime⟩,rfl⟩,
      read_source,rfl⟩,⟨read_trace,traced⟩,rfl⟩,read_version,rfl⟩,read_type,rfl⟩,read_payload,rfl⟩ := accepted
    exact ⟨⟨uuid,correlation_uuid,datetime,traced⟩,fields,same,
      ⟨read_id,read_correlation,read_time,read_source,read_trace⟩,read_version,read_type,read_payload⟩
  · intro accepted
    obtain ⟨formed,fields,same,read,version,type,payload⟩ := accepted
    exact ⟨fields,same,_,_,⟨_,(),⟨_,(),⟨_,_,⟨_,_,⟨_,_,⟨_,_,⟨_,⟨read.eventId,formed.eventId⟩,rfl⟩,
      ⟨read.correlationId,formed.correlationId⟩,rfl⟩,⟨read.timestamp,formed.timestamp⟩,rfl⟩,
      read.source,rfl⟩,⟨read.trace,formed.trace⟩,rfl⟩,version,rfl⟩,type,rfl⟩,payload,rfl⟩

theorem validateEvent_v1 {event : ContractEvent Text} : validateEvent zod raw .v1 = .ok event ↔
    ∃ v1, event = .v1 v1 ∧ createMessageEventV1Schema zod raw = .valid v1 := by
  unfold validateEvent
  cases createMessageEventV1Schema zod raw with
  | valid v1 =>
    change Except.ok (ContractEvent.v1 v1) = .ok event ↔ _
    simp [eq_comm]
  | invalid issues kept =>
    change Except.error _ = Except.ok event ↔ _
    simp

theorem validateEvent_v2 {event : ContractEvent Text} : validateEvent zod raw .v2 = .ok event ↔
    ∃ v2, event = .v2 v2 ∧ createMessageEventV2Schema zod raw = .valid v2 := by
  unfold validateEvent
  cases createMessageEventV2Schema zod raw with
  | valid v2 =>
    change Except.ok (ContractEvent.v2 v2) = .ok event ↔ _
    simp [eq_comm]
  | invalid issues kept =>
    change Except.error _ = Except.ok event ↔ _
    simp

/-- The upcast of a validated event does not throw. -/
theorem upcast_valid [LawfulBEq Text] {v1 : CreateMessageEventV1 Text}
    (accepted : createMessageEventV1Schema zod raw = .valid v1) :
    upcastCreateMessageEventV1ToV2 v1 = .valid ⟨v1.eventId,v1.correlationId,v1.timestamp,v1.source,v1.trace,
      ⟨v1.payload.subject,v1.payload.content,v1.payload.recipient,.normal,[]⟩⟩ := by
  obtain ⟨_,_,_,_,_,_,payload⟩ := v1Event_valid.mp accepted
  unfold upcastCreateMessageEventV1ToV2
  rw [upcastPayload_valid (v1Payload_valid.mp payload).1]
  rfl

end texts

/-! What is read back of a stored event. -/

section stored
variable {zod : Library} {raw : Option Json}

theorem v1Payload_stored {payload : CreateMessageEventV1Payload} (formed : payload.Formed) {stored : Json}
    (same : Reordered payload.toJson stored) :
    createMessageEventV1PayloadSchema (some stored) = .valid payload := by
  obtain ⟨fields,rfl,members⟩ := same.fields (by simp)
  exact v1Payload_valid.mpr ⟨formed,fields,rfl,(members "subject" _ (by simp)).str,
    (members "content" _ (by simp)).str,(members "recipient" _ (by simp)).optional⟩

theorem metadata_stored {metadata : List (String × String)}
    (accepted : messageMetadataSchema raw = .valid metadata) {stored : Json}
    (same : Reordered (.obj (metadata.map spelled)) stored) :
    ∃ kept, messageMetadataSchema (some stored) = .valid kept ∧ kept.Perm metadata := by
  obtain ⟨⟨fields,_,filtered⟩,formed,few⟩ := metadata_valid.mp accepted
  obtain ⟨kept,rfl,moved⟩ := same.record
  refine ⟨kept,metadata_valid.mpr ⟨⟨_,rfl,?_⟩,?_,?_⟩,moved⟩
  · refine List.filter_eq_self.mpr ?_
    intro field member
    obtain ⟨entry,among,rfl⟩ := List.mem_map.mp member
    have original : spelled entry ∈ fields.filter (fun entry => entry.1 != "__proto__") :=
      filtered ▸ List.mem_map_of_mem (moved.mem_iff.mp among)
    exact (List.mem_filter.mp original).2
  · intro entry among
    exact formed entry (moved.mem_iff.mp among)
  · exact moved.length_eq ▸ few

/-- A stored v2 payload is read back as it was, up to the order of its metadata. -/
theorem v2Payload_stored {payload : CreateMessageEventV2Payload} (formed : payload.Formed) {stored : Json}
    (same : Reordered payload.toJson stored) : ∃ kept, kept.Perm payload.metadata ∧
      createMessageEventV2PayloadSchema (some stored) = .valid { payload with metadata := kept } := by
  obtain ⟨fields,rfl,members⟩ := same.fields (by simp)
  obtain ⟨json,found,reordered⟩ := members "metadata"
    (some (.obj (payload.metadata.map (fun entry => (entry.1,.str entry.2))))) (by simp)
  obtain ⟨raw,accepted⟩ := formed.metadata
  obtain ⟨kept,read,moved⟩ := metadata_stored accepted reordered
  have priority : fields.lookup "priority" = some (.str payload.priority.name) :=
    (members "priority" _ (by simp)).str
  refine ⟨kept,moved,v2Payload_valid.mpr ⟨fields,rfl,
    ⟨(members "subject" _ (by simp)).str,formed.subject⟩,
    ⟨(members "content" _ (by simp)).str,formed.content⟩,
    ⟨(members "recipient" _ (by simp)).optional,formed.recipient⟩,?_,?_⟩⟩
  · exact withDefault_valid.mpr (.inr ⟨_,priority,(oneOf_named messagePriorities_lookup).mpr rfl⟩)
  · exact withDefault_valid.mpr (.inr ⟨json,found,read⟩)

namespace EventEnvelope

def members (envelope : EventEnvelope) : List (String × Option Json) := [
  ("eventId",some (.str envelope.eventId)),
  ("correlationId",some (.str envelope.correlationId)),
  ("timestamp",some (.str envelope.timestamp)),
  ("source",some (.str envelope.source.name)),
  ("trace",some (.arr (envelope.trace.map (fun id => .str id.name))))]

theorem ReadFrom.of_members {fields : List (String × Json)} {envelope : EventEnvelope}
    (read : ∀ name value, (name,value) ∈ envelope.members → fields.lookup name = value) :
    envelope.ReadFrom fields :=
  ⟨read "eventId" (some (.str envelope.eventId)) (by simp [members]),
    read "correlationId" (some (.str envelope.correlationId)) (by simp [members]),
    read "timestamp" (some (.str envelope.timestamp)) (by simp [members]),
    read "source" (some (.str envelope.source.name)) (by simp [members]),
    read "trace" (some (.arr (envelope.trace.map (fun id => .string id.name)))) (by simp [members])⟩

theorem ReadFrom.of_stored {fields : List (String × Json)} {envelope : EventEnvelope}
    (read : ∀ name value, (name,value) ∈ envelope.members → Read fields name value) :
    envelope.ReadFrom fields := by
  obtain ⟨trace,found,same⟩ := read "trace" (some (.arr (envelope.trace.map (fun id => .str id.name))))
    (by simp [members])
  refine ⟨(read "eventId" (some (.str envelope.eventId)) (by simp [members])).str,
    (read "correlationId" (some (.str envelope.correlationId)) (by simp [members])).str,
    (read "timestamp" (some (.str envelope.timestamp)) (by simp [members])).str,
    (read "source" (some (.str envelope.source.name)) (by simp [members])).str,?_⟩
  exact found.trans (congrArg some same.texts)

end EventEnvelope

theorem v1Event_stored {event : CreateMessageEventV1} (envelope : event.envelope.Formed zod)
    (payload : event.payload.Formed) {stored : Json} (same : Reordered (ContractEvent.v1 event).toJson stored) :
    createMessageEventV1Schema zod (some stored) = .valid event := by
  obtain ⟨fields,rfl,members⟩ := same.fields (by simp)
  obtain ⟨json,found,reordered⟩ := members "payload" (some event.payload.toJson) (by simp)
  have version : Read fields "schemaVersion" ((event.schemaVersion.map SchemaVersion.name).map .str) :=
    members "schemaVersion" _ (by simp [Function.comp_def])
  refine v1Event_valid.mpr ⟨envelope,fields,rfl,.of_stored ?_,?_,(members "type" _ (by simp)).str,?_⟩
  · intro name value member
    refine members name value ?_
    simp only [EventEnvelope.members,CreateMessageEventV1.envelope,List.mem_cons,List.not_mem_nil,
      or_false] at member ⊢
    tauto
  · refine version.optional.trans ?_
    rw [Option.map_map]
    rfl
  · exact found ▸ v1Payload_stored payload reordered

theorem v2Event_stored {event : CreateMessageEventV2} (envelope : event.envelope.Formed zod)
    (payload : event.payload.Formed) {stored : Json} (same : Reordered (ContractEvent.v2 event).toJson stored) :
    ∃ kept, kept.Perm event.payload.metadata ∧ createMessageEventV2Schema zod (some stored) =
      .valid { event with payload := { event.payload with metadata := kept } } := by
  obtain ⟨fields,rfl,members⟩ := same.fields (by simp)
  obtain ⟨json,found,reordered⟩ := members "payload" (some event.payload.toJson) (by simp)
  obtain ⟨kept,moved,read⟩ := v2Payload_stored payload reordered
  refine ⟨kept,moved,v2Event_valid.mpr ⟨envelope,fields,rfl,.of_stored ?_,
    (members "schemaVersion" _ (by simp)).str,(members "type" _ (by simp)).str,found ▸ read⟩⟩
  intro name value member
  refine members name value ?_
  simp only [EventEnvelope.members,CreateMessageEventV2.envelope,List.mem_cons,List.not_mem_nil,
    or_false] at member ⊢
  tauto

def ContractEvent.Same : ContractEvent → ContractEvent → Prop
  | .v1 event, .v1 other => other = event
  | .v2 event, .v2 other => ∃ kept, kept.Perm event.payload.metadata ∧
      other = { event with payload := { event.payload with metadata := kept } }
  | _, _ => False

/-- An event that was accepted is accepted again after it was stored as JSON. -/
theorem validateEvent_stored {version : SchemaVersion} {event : ContractEvent}
    (accepted : validateEvent zod raw version = .ok event) {stored : Json}
    (same : Reordered event.toJson stored) :
    ∃ again, validateEvent zod (some stored) version = .ok again ∧ event.Same again := by
  cases version with
  | v1 =>
    obtain ⟨v1,rfl,valid⟩ := validateEvent_v1.mp accepted
    obtain ⟨envelope,fields,_,_,_,_,payload⟩ := v1Event_valid.mp valid
    have read := v1Event_stored envelope (v1Payload_valid.mp payload).1 same
    exact ⟨.v1 v1,validateEvent_v1.mpr ⟨v1,rfl,read⟩,rfl⟩
  | v2 =>
    obtain ⟨v2,rfl,valid⟩ := validateEvent_v2.mp accepted
    obtain ⟨envelope,fields,_,_,_,_,payload⟩ := v2Event_valid.mp valid
    obtain ⟨kept,moved,read⟩ := v2Event_stored envelope (v2Payload_formed payload) same
    exact ⟨.v2 _,validateEvent_v2.mpr ⟨_,rfl,read⟩,kept,moved,rfl⟩

end stored

end MessagingPlatform

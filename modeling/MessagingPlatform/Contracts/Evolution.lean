import MessagingPlatform.Contracts.RoundTrip

/-! How the two contract versions relate: the upcast of v1 events, and what the v2 payload schema makes
of the payloads that the v1 schema accepts. -/
namespace MessagingPlatform
open Schema

variable {zod : Library} {raw : Option Json}

theorem v2Event_again {event : CreateMessageEventV2} (envelope : event.envelope.Formed zod)
    (payload : event.payload.Formed) (plain : event.payload.metadata = []) :
    createMessageEventV2Schema zod (some (ContractEvent.v2 event).toJson) = .valid event := by
  obtain ⟨kept,moved,read⟩ := v2Event_stored envelope payload (.refl _)
  rw [plain] at moved
  obtain rfl := moved.eq_nil
  obtain ⟨_,_,_,_,_,⟨_,_,_,_,metadata⟩⟩ := event
  obtain rfl : metadata = [] := plain
  exact read

/-- The upcast of a validated event is the v2 event with the same envelope and content. -/
theorem upcast_eq_iff {Text : Type} [BEq Text] [LawfulBEq Text] [JsText Text] {raw : Option (Json Text)}
    {v1 : CreateMessageEventV1 Text} (accepted : createMessageEventV1Schema zod raw = .valid v1)
    (v2 : CreateMessageEventV2 Text) : upcastCreateMessageEventV1ToV2 v1 = .valid v2 ↔
      v2.envelope = v1.envelope ∧ v2.payload.subject = v1.payload.subject ∧
      v2.payload.content = v1.payload.content ∧ v2.payload.recipient = v1.payload.recipient ∧
      v2.payload.priority = .normal ∧ v2.payload.metadata = [] := by
  rw [upcast_valid accepted]
  obtain ⟨_,_,_,_,_,⟨_,_,_,_,_⟩⟩ := v2
  simp only [Parsed.valid.injEq,CreateMessageEventV2.mk.injEq,CreateMessageEventV2Payload.mk.injEq,
    CreateMessageEventV1.envelope,CreateMessageEventV2.envelope,EventEnvelope.mk.injEq]
  constructor <;> intro same <;> simp [same]

theorem eq_but_version {event other : CreateMessageEventV1} (envelope : other.envelope = event.envelope)
    (subject : other.payload.subject = event.payload.subject)
    (content : other.payload.content = event.payload.content)
    (recipient : other.payload.recipient = event.payload.recipient) :
    other = { event with schemaVersion := other.schemaVersion } := by
  obtain ⟨_,_,_,_,_,_,⟨_,_,_⟩⟩ := event
  obtain ⟨_,_,_,_,_,_,⟨_,_,_⟩⟩ := other
  simp only [CreateMessageEventV1.envelope,EventEnvelope.mk.injEq] at envelope
  simp_all

/-- The upcast of a validated v1 event never throws, its result is a valid v2 event with the envelope and
the content of the event, and it tells any two validated events apart that differ in more than their
schema version. -/
theorem upcast_lossless (zod : Library) (raw : Option Json) (event : ContractEvent)
    (accepted : validateEvent zod raw .v1 = .ok event) :
    ∃ v1 v2, event = .v1 v1 ∧ upcastCreateMessageEventV1ToV2 v1 = .valid v2 ∧
      createMessageEventV2Schema zod (some (ContractEvent.v2 v2).toJson) = .valid v2 ∧
      (v2.eventId = v1.eventId ∧ v2.correlationId = v1.correlationId ∧ v2.timestamp = v1.timestamp ∧
        v2.source = v1.source ∧ v2.trace = v1.trace) ∧
      (v2.payload.subject = v1.payload.subject ∧ v2.payload.content = v1.payload.content ∧
        v2.payload.recipient = v1.payload.recipient ∧ v2.payload.priority = .normal ∧
        v2.payload.metadata = []) ∧
      ∀ otherRaw other, validateEvent zod otherRaw .v1 = .ok (.v1 other) →
        upcastCreateMessageEventV1ToV2 other = .valid v2 →
        other = { v1 with schemaVersion := other.schemaVersion } := by
  obtain ⟨v1,rfl,valid⟩ := validateEvent_v1.mp accepted
  obtain ⟨envelope,_,_,_,_,_,read⟩ := v1Event_valid.mp valid
  have formed := (v1Payload_valid.mp read).1
  refine ⟨v1,_,rfl,upcast_valid valid,?_,⟨rfl,rfl,rfl,rfl,rfl⟩,⟨rfl,rfl,rfl,rfl,rfl⟩,?_⟩
  · exact v2Event_again envelope ⟨formed.subject,formed.content,formed.recipient,some (.obj []),rfl⟩ rfl
  · intro otherRaw other acceptedOther same
    obtain ⟨found,sameFound,validOther⟩ := validateEvent_v1.mp acceptedOther
    obtain rfl := ContractEvent.v1.inj sameFound
    obtain ⟨sameEnvelope,subject,content,recipient,_,_⟩ := (upcast_eq_iff validOther _).mp same
    exact eq_but_version sameEnvelope.symm subject.symm content.symm recipient.symm

theorem sample_upcast_lossless : ∃ v2,
    createMessageEventV2Schema sampleLibrary (some (ContractEvent.v2 v2).toJson) = .valid v2 ∧
      v2.payload.subject = "System test message" := by
  have accepted : validateEvent sampleLibrary (some sampleEvent) .v1 = .ok (.v1 ⟨
      "11111111-1111-4111-8111-111111111111","22222222-2222-4222-8222-222222222222",
      "2026-01-01T00:00:00.000Z",.gateway,[.gateway],none,⟨"System test message","Hello RabbitMQ!",none⟩⟩) := by rfl
  obtain ⟨_,v2,same,_,again,_,⟨subject,_⟩,_⟩ := upcast_lossless sampleLibrary _ _ accepted
  obtain rfl := ContractEvent.v1.inj same
  exact ⟨v2,again,subject⟩

def PriorityAdmitted (value : Option Json) : Prop :=
  value = none ∨ ∃ priority : MessagePriority, value = some (.str priority.name)

def MetadataAdmitted (value : Option Json) : Prop :=
  value = none ∨ ∃ fields, value = some (.obj fields) ∧
    let entries := fields.filter (fun entry => entry.1 != "__proto__")
    entries.length ≤ maxMetadataEntries ∧ ∀ entry ∈ entries,
      Within (some 1) (some maxMetadataStringLength) entry.1 ∧
      ∃ text, entry.2 = .str text ∧ Within none (some maxMetadataStringLength) text

theorem priority_admitted_iff {value : Option Json} : (∃ priority,
    withDefault .normal (oneOf messagePriorities) value = .valid priority) ↔ PriorityAdmitted value := by
  simp only [withDefault_valid,oneOf_named messagePriorities_lookup,PriorityAdmitted]
  constructor
  · intro accepted
    obtain ⟨priority,⟨absent,_⟩ | ⟨json,rfl,named⟩⟩ := accepted
    · exact .inl absent
    · exact .inr ⟨priority,named⟩
  · intro admitted
    rcases admitted with absent | ⟨priority,named⟩
    · exact ⟨.normal,.inl ⟨absent,rfl⟩⟩
    · exact ⟨priority,.inr ⟨_,named,rfl⟩⟩

theorem entries_spelled {entries : List (String × Json)}
    (formed : ∀ entry ∈ entries, Within (some 1) (some maxMetadataStringLength) entry.1 ∧
      ∃ text, entry.2 = .str text ∧ Within none (some maxMetadataStringLength) text) :
    ∃ metadata : List (String × String), entries = metadata.map spelled ∧ ∀ entry ∈ metadata, EntryFormed entry := by
  induction entries with
  | nil => exact ⟨[],rfl,by simp⟩
  | cons entry rest ih =>
    obtain ⟨name,value⟩ := entry
    obtain ⟨key,text,same,within⟩ := formed (name,value) List.mem_cons_self
    obtain ⟨metadata,spelt,others⟩ := ih (fun other member => formed other (List.mem_cons_of_mem _ member))
    refine ⟨(name,text) :: metadata,?_,?_⟩
    · rw [List.map_cons,← spelt,spelled]
      exact congrArg (fun value => (name,value) :: rest) same
    · exact List.forall_mem_cons.mpr ⟨⟨key,within⟩,others⟩

/-- What v2 admits as metadata of a payload that v1 reads without it. -/
theorem metadata_admitted_iff {value : Option Json} : (∃ metadata,
    withDefault [] messageMetadataSchema value = .valid metadata) ↔ MetadataAdmitted value := by
  simp only [withDefault_valid,MetadataAdmitted]
  constructor
  · intro accepted
    obtain ⟨metadata,⟨absent,_⟩ | ⟨json,rfl,read⟩⟩ := accepted
    · exact .inl absent
    · obtain ⟨⟨fields,same,kept⟩,formed,few⟩ := metadata_valid.mp read
      refine .inr ⟨fields,same,?_⟩
      rw [JsText.ofString_string] at kept
      rw [kept]
      refine ⟨by simpa using few,?_⟩
      intro entry member
      obtain ⟨original,among,rfl⟩ := List.mem_map.mp member
      exact ⟨(formed original among).1,original.2,rfl,(formed original among).2⟩
  · intro admitted
    rcases admitted with absent | ⟨fields,rfl,few,formed⟩
    · exact ⟨[],.inl ⟨absent,rfl⟩⟩
    · obtain ⟨metadata,spelt,entries⟩ := entries_spelled formed
      refine ⟨metadata,.inr ⟨_,rfl,metadata_valid.mpr ⟨⟨fields,rfl,spelt⟩,entries,?_⟩⟩⟩
      rw [spelt,List.length_map] at few
      exact few

/-- Of the payloads that the v1 schema accepts, the v2 schema accepts those whose `priority` and
`metadata`, which v1 ignores, are absent or in order, and it reads the same content. -/
theorem v2_accepts_v1_iff (raw : Option Json) (payload : CreateMessageEventV1Payload)
    (accepted : createMessageEventV1PayloadSchema raw = .valid payload) :
    (∃ other, createMessageEventV2PayloadSchema raw = .valid other ∧ other.subject = payload.subject ∧
      other.content = payload.content ∧ other.recipient = payload.recipient) ↔
    PriorityAdmitted (raw.bind (fun value => value.get? "priority")) ∧
      MetadataAdmitted (raw.bind (fun value => value.get? "metadata")) := by
  obtain ⟨formed,fields,rfl,subject,content,recipient⟩ := v1Payload_valid.mp accepted
  rw [← priority_admitted_iff,← metadata_admitted_iff]
  constructor
  · intro accepted
    obtain ⟨other,read,_⟩ := accepted
    obtain ⟨found,same,_,_,_,priority,metadata⟩ := v2Payload_valid.mp read
    obtain rfl := Json.obj.inj (Option.some.inj same)
    exact ⟨⟨_,priority⟩,⟨_,metadata⟩⟩
  · intro admitted
    obtain ⟨⟨priority,readPriority⟩,⟨metadata,readMetadata⟩⟩ := admitted
    refine ⟨⟨payload.subject,payload.content,payload.recipient,priority,metadata⟩,?_,rfl,rfl,rfl⟩
    exact v2Payload_valid.mpr ⟨fields,rfl,⟨subject,formed.subject⟩,⟨content,formed.content⟩,
      ⟨recipient,formed.recipient⟩,readPriority,readMetadata⟩

def prioritizedPayload (priority : String) : Json :=
  .obj [("subject",.str "a"),("content",.str "b"),("priority",.str priority)]

theorem prioritized_payload_accepted : ∃ other,
    createMessageEventV2PayloadSchema (some (prioritizedPayload "high")) = .valid other ∧
      other.subject = "a" := by
  have accepted : createMessageEventV1PayloadSchema (some (prioritizedPayload "high")) =
      .valid ⟨"a","b",none⟩ := by rfl
  obtain ⟨other,read,subject,_⟩ := (v2_accepts_v1_iff _ _ accepted).mpr ⟨.inr ⟨.high,rfl⟩,.inl rfl⟩
  exact ⟨other,read,subject⟩

/-- A priority that v2 does not know is no concern of v1. -/
theorem urgent_payload_rejected : ¬ ∀ (raw : Option Json) (payload : CreateMessageEventV1Payload),
    createMessageEventV1PayloadSchema raw = .valid payload →
    ∃ other, createMessageEventV2PayloadSchema raw = .valid other ∧ other.subject = payload.subject ∧
      other.content = payload.content ∧ other.recipient = payload.recipient := by
  intro accepts
  obtain ⟨other,read,_⟩ := accepts (some (prioritizedPayload "urgent")) ⟨"a","b",none⟩ rfl
  cases read

end MessagingPlatform

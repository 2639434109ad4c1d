import MessagingPlatform.Contracts.RoundTrip
import MessagingPlatform.Consumer.Handler

/-! Which messages `handleMessage` goes on to process: the schema version that it resolves
against the schemas that the body satisfies. -/
namespace MessagingPlatform
open Schema

variable {engine : Engine} {header : Option HeaderValue} {fields : List (String × Json)}

theorem coerce_name (version : SchemaVersion) :
    coerceToSchemaVersion engine (.json (.str version.name)) = some version := by
  cases version <;> rfl

theorem resolve_named {version : SchemaVersion}
    (named : fields.lookup "schemaVersion" = some (.str version.name)) :
    resolveSchemaVersion engine ⟨some (.obj fields),header,none⟩ = version := by
  have read : (readEnvelope (some (.obj fields)) "schemaVersion").bind
      (fun value => coerceToSchemaVersion engine (.json value)) = some version := by
    have found : readEnvelope (some (.obj fields)) "schemaVersion" = some (.str version.name) := named
    rw [found]
    exact @coerce_name engine version
  unfold resolveSchemaVersion
  simp only [read,Option.some_or,Option.getD_some]

theorem suffix_name (version : SchemaVersion) :
    extractFromTypeSuffix (some (.str version.eventTypeName)) = some version := by
  cases version <;> rfl

theorem resolve_unnamed {version : SchemaVersion} (unnamed : fields.lookup "schemaVersion" = none)
    (typed : fields.lookup "type" = some (.str version.eventTypeName)) :
    resolveSchemaVersion engine ⟨some (.obj fields),header,none⟩ =
      (header.bind (fun value => coerceToSchemaVersion engine (.header value))).getD version := by
  have read : readEnvelope (some (.obj fields)) "schemaVersion" = none := unnamed
  have suffix : readEnvelope (some (.obj fields)) "type" = some (.str version.eventTypeName) := typed
  unfold resolveSchemaVersion
  simp only [read,Option.bind_none,Option.none_or,suffix,suffix_name]
  cases header.bind (fun value => coerceToSchemaVersion engine (.header value)) <;> rfl

namespace Consumer

def headerVersion (engine : Engine) (headers : Headers) : Option SchemaVersion :=
  (MessagingController.readSchemaVersionHeader headers).bind
    (fun value => coerceToSchemaVersion engine (.header value))

/-- A body of the v1 type that is taken for v2: it says so itself, or it says nothing and its
header does. -/
def Misclaimed (engine : Engine) (headers : Headers) (data : Option Json) : Prop :=
  readEnvelope data "type" = some (.str CreateMessageEvent.nameV1) ∧
    (readEnvelope data "schemaVersion" = some (.str "2") ∨
      (readEnvelope data "schemaVersion" = none ∧ headerVersion engine headers = some .v2))

def Processes (engine : Engine) (zod : Library) (delivery : Delivery) : Prop :=
  ∃ version event processed, validateEvent zod delivery.data version = .ok event ∧
    MessagingController.normalize event = .valid processed ∧
    MessagingController.handleMessage engine zod delivery =
      MessagingController.handleValid engine delivery version.eventTypeName processed

variable {zod : Library} {delivery : Delivery}

theorem handled_of_resolved {version : SchemaVersion} {event : ContractEvent}
    {processed : CreateMessageEventV2}
    (resolved : MessagingController.schemaVersion engine delivery.headers delivery.data = version)
    (accepted : validateEvent zod delivery.data version = .ok event)
    (normalized : MessagingController.normalize event = .valid processed) :
    MessagingController.handleMessage engine zod delivery =
      MessagingController.handleValid engine delivery version.eventTypeName processed := by
  have validated : MessagingController.validate engine zod delivery.headers delivery.data = .ok event := by
    unfold MessagingController.validate
    rw [resolved,accepted]
  unfold MessagingController.handleMessage
  simp only [validated,normalized,resolved]

theorem processes_of_resolved {version : SchemaVersion} {event : ContractEvent}
    {processed : CreateMessageEventV2}
    (resolved : MessagingController.schemaVersion engine delivery.headers delivery.data = version)
    (accepted : validateEvent zod delivery.data version = .ok event)
    (normalized : MessagingController.normalize event = .valid processed) : Processes engine zod delivery :=
  ⟨version,event,processed,accepted,normalized,handled_of_resolved resolved accepted normalized⟩

theorem drops_of_resolved {version : SchemaVersion} {errors : List ValidationFailureDetail}
    (resolved : MessagingController.schemaVersion engine delivery.headers delivery.data = version)
    (refused : validateEvent zod delivery.data version = .error errors) :
    MessagingController.handleMessage engine zod delivery =
      MessagingController.rejectInvalid delivery.data version.eventTypeName errors := by
  have validated : MessagingController.validate engine zod delivery.headers delivery.data = .error errors := by
    unfold MessagingController.validate
    rw [resolved,refused]
  unfold MessagingController.handleMessage
  simp only [validated,resolved]

theorem rejectInvalid_ne {eventTypeName other : String} {errors : List ValidationFailureDetail}
    {processed : CreateMessageEventV2} : MessagingController.rejectInvalid delivery.data other errors ≠
      MessagingController.handleValid engine delivery eventTypeName processed := by
  intro same
  have requests := (Async.await.inj same).1
  cases requests

theorem v2_processed (accepted : ∃ event, createMessageEventV2Schema zod delivery.data = .valid event) :
    Processes engine zod delivery ∧ ¬ Misclaimed engine delivery.headers delivery.data := by
  obtain ⟨event,valid⟩ := accepted
  obtain ⟨_,fields,body,_,named,typed,_⟩ := v2Event_valid.mp valid
  have version : fields.lookup "schemaVersion" = some (.str SchemaVersion.v2.name) := named
  have resolved : MessagingController.schemaVersion engine delivery.headers delivery.data = .v2 := by
    rw [body]
    exact resolve_named version
  refine ⟨processes_of_resolved resolved (validateEvent_v2.mpr ⟨event,rfl,valid⟩) rfl,?_⟩
  intro misclaimed
  have first := misclaimed.1
  rw [body] at first
  have differ : some (Json.str CreateMessageEvent.nameV1) = some (.str CreateMessageEvent.nameV2) :=
    first.symm.trans typed
  simp [CreateMessageEvent.nameV1,CreateMessageEvent.nameV2] at differ

theorem v1_processed_iff (accepted : ∃ event, createMessageEventV1Schema zod delivery.data = .valid event) :
    Processes engine zod delivery ↔ ¬ Misclaimed engine delivery.headers delivery.data := by
  obtain ⟨event,valid⟩ := accepted
  obtain ⟨_,fields,body,_,named,typed,_⟩ := v1Event_valid.mp valid
  have type : readEnvelope delivery.data "type" = some (.str CreateMessageEvent.nameV1) := body ▸ typed
  have version : readEnvelope delivery.data "schemaVersion" =
      event.schemaVersion.map (fun version => .str version.name) := body ▸ named
  have process : MessagingController.schemaVersion engine delivery.headers delivery.data = .v1 →
      Processes engine zod delivery := by
    intro resolved
    exact processes_of_resolved resolved (validateEvent_v1.mpr ⟨event,rfl,valid⟩) (upcast_valid valid)
  have drop : MessagingController.schemaVersion engine delivery.headers delivery.data = .v2 →
      ¬ Processes engine zod delivery := by
    intro resolved processes
    obtain ⟨other,found,processed,_,_,handled⟩ := processes
    cases outcome : validateEvent zod delivery.data .v2 with
    | ok second =>
      obtain ⟨v2,_,other_valid⟩ := validateEvent_v2.mp outcome
      obtain ⟨_,same_fields,same_body,_,_,other_type,_⟩ := v2Event_valid.mp other_valid
      obtain rfl := Json.obj.inj (Option.some.inj (body.symm.trans same_body))
      exact absurd (typed.symm.trans other_type) (by simp [CreateMessageEvent.nameV1,CreateMessageEvent.nameV2])
    | error errors => exact rejectInvalid_ne ((drops_of_resolved resolved outcome).symm.trans handled)
  cases claimed : event.schemaVersion with
  | some claim =>
    rw [claimed,Option.map_some] at version named
    have resolved : MessagingController.schemaVersion engine delivery.headers delivery.data = claim := by
      rw [body]
      exact resolve_named named
    cases claim with
    | v1 =>
      refine iff_of_true (process resolved) ?_
      intro misclaimed
      rcases misclaimed.2 with second | ⟨none,_⟩
      · exact absurd (version.symm.trans second) (by simp [SchemaVersion.name])
      · exact absurd (version.symm.trans none) (by simp)
    | v2 => exact iff_of_false (drop resolved) (fun proper => proper ⟨type,.inl version⟩)
  | none =>
    rw [claimed,Option.map_none] at version named
    have unnamed : ∀ misclaimed : Misclaimed engine delivery.headers delivery.data,
        headerVersion engine delivery.headers = some .v2 := by
      intro misclaimed
      rcases misclaimed.2 with second | ⟨_,header⟩
      · exact absurd (version.symm.trans second) (by simp)
      · exact header
    have resolved : MessagingController.schemaVersion engine delivery.headers delivery.data =
        (headerVersion engine delivery.headers).getD .v1 := by
      rw [body]
      exact resolve_unnamed named typed
    cases header : headerVersion engine delivery.headers with
    | none =>
      rw [header] at resolved
      refine iff_of_true (process resolved) ?_
      intro misclaimed
      exact absurd (header.symm.trans (unnamed misclaimed)) (by simp)
    | some claim =>
      rw [header] at resolved
      cases claim with
      | v1 =>
        refine iff_of_true (process resolved) ?_
        intro misclaimed
        exact absurd (header.symm.trans (unnamed misclaimed)) (by simp)
      | v2 => exact iff_of_false (drop resolved) (fun proper => proper ⟨type,.inr ⟨version,header⟩⟩)

/-- A body that satisfies one of the two schemas is processed under it, unless it is a v1 body
that claims to be v2, in its envelope or by its header alone. -/
theorem processed_iff (engine : Engine) (zod : Library) (delivery : Delivery)
    (accepted : (∃ event, createMessageEventV1Schema zod delivery.data = .valid event) ∨
      ∃ event, createMessageEventV2Schema zod delivery.data = .valid event) :
    Processes engine zod delivery ↔ ¬ Misclaimed engine delivery.headers delivery.data := by
  rcases accepted with first | second
  · exact v1_processed_iff first
  · obtain ⟨processes,proper⟩ := v2_processed second
    exact iff_of_true processes proper

def claimingEvent : Json := .obj [
  ("schemaVersion",.str "2"),
  ("type",.str "CreateMessageEvent.v1"),
  ("eventId",.str "11111111-1111-4111-8111-111111111111"),
  ("correlationId",.str "22222222-2222-4222-8222-222222222222"),
  ("timestamp",.str "2026-01-01T00:00:00.000Z"),
  ("source",.str "gateway"),
  ("trace",.arr [.str "gateway"]),
  ("payload",.obj [("subject",.str "System test message"),("content",.str "Hello RabbitMQ!")])]

def claimingDelivery : Delivery where
  content := .stringify (Json.ofFields [("pattern",some (.str CreateMessageEvent.nameV1)),
    ("data",some claimingEvent)])
  headers := []
  data := some claimingEvent

theorem sample_processed : Processes sampleEngine sampleLibrary sampleDelivery :=
  (processed_iff sampleEngine sampleLibrary sampleDelivery (.inl ⟨_,rfl⟩)).mpr
    (fun misclaimed => by obtain ⟨_,impossible | ⟨_,impossible⟩⟩ := misclaimed <;> cases impossible)

/-- A v1 body that names the newer version is dropped. -/
theorem claiming_dropped : ¬ ∀ (engine : Engine) (zod : Library) (delivery : Delivery),
    ((∃ event, createMessageEventV1Schema zod delivery.data = .valid event) ∨
      ∃ event, createMessageEventV2Schema zod delivery.data = .valid event) →
    Processes engine zod delivery := by
  intro processed
  obtain ⟨version,event,_,accepted,_,handled⟩ :=
    processed sampleEngine sampleLibrary claimingDelivery (.inl ⟨_,rfl⟩)
  have requests := (Async.await.inj handled).1
  cases requests

end Consumer

end MessagingPlatform

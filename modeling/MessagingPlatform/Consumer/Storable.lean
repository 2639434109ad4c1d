import MessagingPlatform.Contracts.Evolution
import MessagingPlatform.Consumer.Failures

/-! The columns that the processing of an event writes, and which texts of an accepted event they take.
The texts are those that `JSON.parse` yields, any sequences of UTF-16 code units. -/
namespace MessagingPlatform.Consumer

def NulFree (text : Utf16) : Prop := 0 ∉ text.units

/-- A `varchar(n)` column takes the text. Its length counts code points; a surrogate that stands alone is
one of them, as the driver writes U+FFFD for it. -/
def Varchar (n : Nat) (text : Utf16) : Prop := text.codePoints.length ≤ n ∧ NulFree text

instance (text : Utf16) : Decidable (NulFree text) := inferInstanceAs (Decidable (_ ∉ _))

instance (n : Nat) (text : Utf16) : Decidable (Varchar n text) := inferInstanceAs (Decidable (_ ∧ _))

/-- No text and no member name of the value holds U+0000 or a surrogate that stands alone:
`JSON.stringify` escapes both, and a `jsonb` column refuses both escapes. -/
inductive Jsonb : Json Utf16 → Prop
  | null : Jsonb .null
  | bool {value} : Jsonb (.bool value)
  | num {value} : Jsonb (.num value)
  | str {text} (free : NulFree text) (wellFormed : text.WellFormed) : Jsonb (.str text)
  | arr {items} (each : ∀ item ∈ items, Jsonb item) : Jsonb (.arr items)
  | obj {fields} (names : ∀ field ∈ fields, NulFree field.1 ∧ field.1.WellFormed)
      (values : ∀ field ∈ fields, Jsonb field.2) : Jsonb (.obj fields)

def carrierJson (carrier : TraceCarrier) : Json Utf16 :=
  .obj (carrier.map (fun entry => (.encode entry.1,.string entry.2)))

def Storable : Request Utf16 → Prop
  | .saveProcessedEvent row =>
      Varchar 36 (.encode row.eventId) ∧ Varchar 255 (.encode row.eventType) ∧
        ∀ id ∈ row.correlationId, Varchar 36 (.encode id)
  | .saveMessage row => Varchar 255 row.title ∧ NulFree row.content ∧ Varchar 255 row.sender
  | .saveOutboxEvent row =>
      Varchar 36 (.encode row.eventId) ∧ Varchar 255 (.encode row.eventType) ∧ Jsonb row.payload ∧
        (∀ id ∈ row.correlationId, Varchar 36 (.encode id)) ∧
        (-2147483648 ≤ row.maxAttempts ∧ row.maxAttempts ≤ 2147483647) ∧
        ∀ carrier ∈ row.traceContext, Jsonb (carrierJson carrier)
  | _ => True

/-- What every UUID is: 36 characters, none of them U+0000. -/
def UuidShaped (text : String) : Prop := text.length = 36 ∧ NulFree (.encode text)

instance (text : String) : Decidable (UuidShaped text) := inferInstanceAs (Decidable (_ ∧ _))

def CarrierShaped (carrier : TraceCarrier) : Prop :=
  ∀ entry ∈ carrier, NulFree (.encode entry.1) ∧ NulFree (.encode entry.2)

/-- `randomUUID` makes UUIDs, and the propagator writes no U+0000. -/
def Supplied : (request : Request Utf16) → Except Thrown (Reply request) → Prop
  | .randomUUID, .ok text => UuidShaped text
  | .inject, .ok carrier => CarrierShaped carrier
  | _, _ => True

def Environment.Supplies (environment : Environment Utf16) : Prop :=
  ∀ log request, Supplied request (environment log request).1

theorem UuidShaped.varchar {text : String} (shaped : UuidShaped text) : Varchar 36 (.encode text) := by
  refine ⟨?_,shaped.2⟩
  rw [Utf16.codePoints_encode,List.length_map,String.length_toList]
  exact shaped.1.le

theorem jsonb_carrier {carrier : TraceCarrier} (shaped : CarrierShaped carrier) : Jsonb (carrierJson carrier) := by
  apply Jsonb.obj
  · intro field member
    obtain ⟨entry,present,rfl⟩ := List.mem_map.mp member
    exact ⟨(shaped entry present).1,Utf16.wellFormed_encode entry.1⟩
  · intro field member
    obtain ⟨entry,present,rfl⟩ := List.mem_map.mp member
    exact .str (shaped entry present).2 (Utf16.wellFormed_encode entry.2)

/-- The payload that is announced of a message holds its title alone. -/
theorem messagePersisted_payload (subject content : Utf16) (correlationId : Option String) :
    (MessagingService.messagePersisted ⟨some subject,some content⟩ correlationId).payload =
      .obj [(.encode "title",.str subject)] := rfl

theorem jsonb_messagePersisted_iff {subject content : Utf16} {correlationId : Option String} :
    Jsonb (MessagingService.messagePersisted ⟨some subject,some content⟩ correlationId).payload ↔
      NulFree subject ∧ subject.WellFormed := by
  rw [messagePersisted_payload]
  constructor
  · intro stored
    cases stored with
    | obj names values =>
      cases values _ List.mem_cons_self with
      | str free wellFormed => exact ⟨free,wellFormed⟩
  · intro texts
    apply Jsonb.obj
    · intro field member
      obtain rfl := List.mem_singleton.mp member
      exact ⟨(by decide : NulFree (.encode "title")),Utf16.wellFormed_encode "title"⟩
    · intro field member
      obtain rfl := List.mem_singleton.mp member
      exact .str texts.1 texts.2

def storing : Protocol Unit Thrown (Request Utf16) Reply where
  allows _ request := Storable request
  moves _ request outcome _ := Supplied request outcome

abbrev Stores {Value : Type} (program : TextProgram Utf16 Value) : Prop := storing.Follows program () (fun _ _ => True)

namespace Stores
variable {Value Other : Type}

theorem bind {program : TextProgram Utf16 Value} {f : Value → TextProgram Utf16 Other} (first : Stores program)
    (continues : ∀ value, Stores (f value)) : Stores (program.bind f) :=
  Protocol.Follows.bind first (fun _ value _ => continues value) (fun _ _ _ => trivial)

theorem tryCatch {program : TextProgram Utf16 Value} {handler : Thrown → TextProgram Utf16 Value} (body : Stores program)
    (handled : ∀ error, Stores (handler error)) : Stores (program.tryCatch handler) :=
  Protocol.Follows.tryCatch body (fun _ _ _ => trivial) (fun _ error _ => handled error)

theorem tryFinally {program : TextProgram Utf16 Value} {cleanup : TextProgram Utf16 Unit} (body : Stores program)
    (cleaned : Stores cleanup) : Stores (program.tryFinally cleanup) := by
  apply Protocol.Follows.tryFinally body
  intro view outcome _
  apply Protocol.Follows.mono cleaned
  intro after ended _
  cases ended <;> trivial

theorem request {request : Request Utf16} (storable : Storable request) : Stores (Consumer.request request) :=
  Protocol.Follows.call storable (fun _ _ _ => trivial)

/-- What a request resolves to has the shape that it is supplied in. -/
theorem supplied {request : Request Utf16} {f : Reply request → TextProgram Utf16 Value} (storable : Storable request)
    (continues : ∀ value, Supplied request (.ok value) → Stores (f value)) :
    Stores ((Consumer.request request).bind f) :=
  Protocol.Follows.bind (M := fun _ outcome => Supplied request outcome)
    (Protocol.Follows.call storable (fun _ _ moved => moved)) (fun _ value shaped => continues value shaped)
    (fun _ _ _ => trivial)

end Stores

theorem insertOutboxEvents_stores {input : OutboxEventInput Utf16} (type : Varchar 255 (.encode input.eventType))
    (payload : Jsonb input.payload) (correlation : ∀ id ∈ input.correlationId, Varchar 36 (.encode id))
    (plain : input.maxAttempts = none) :
    Stores (OutboxTransactionService.insertOutboxEvents [input]) := by
  refine Stores.bind (.request trivial) ?_
  intro now
  refine Stores.supplied trivial ?_
  intro carrier shaped
  refine Stores.bind ?_ (fun _ => trivial)
  refine Stores.supplied trivial ?_
  intro eventId uuid
  apply Stores.request
  refine ⟨uuid.varchar,type,payload,correlation,?_,?_⟩
  · dsimp only
    rw [plain]
    decide
  · intro traced member
    dsimp only at member
    split_ifs at member
    · obtain rfl := Option.some.inj member
      exact jsonb_carrier shaped
    · cases member

structure StoredTexts (event : CreateMessageEventV2 Utf16) (eventTypeName : String) : Prop where
  eventId : Varchar 36 (.encode event.eventId)
  correlationId : Varchar 36 (.encode event.correlationId)
  eventType : Varchar 255 (.encode eventTypeName)
  subject : Varchar 255 event.payload.subject
  title : event.payload.subject.WellFormed
  content : NulFree event.payload.content

/-- With storable texts every insert of the processing is storable, however the other calls settle. -/
theorem processEvent_stores {event : CreateMessageEventV2 Utf16} {eventTypeName : String}
    (texts : StoredTexts event eventTypeName) : Stores (MessagingController.processEvent event eventTypeName) := by
  have correlation : ∀ id ∈ some event.correlationId, Varchar 36 (.encode id) := by
    intro id member
    obtain rfl := Option.some.inj member
    exact texts.correlationId
  have sender : Varchar 255 (JsText.ofString "system-user") := by decide
  have persisted : Varchar 255 (.encode "MessagePersisted") := by decide
  have announced : Stores (OutboxTransactionService.insertOutboxEvents [MessagingService.messagePersisted
      ⟨some event.payload.subject,some event.payload.content⟩ (some event.correlationId)]) :=
    @insertOutboxEvents_stores (MessagingService.messagePersisted _ _) persisted
      (jsonb_messagePersisted_iff.mpr ⟨texts.subject.2,texts.title⟩) correlation rfl
  have ledger : Stores (OutboxTransactionService.insertLedgerRow
      ⟨event.eventId,eventTypeName,some event.correlationId⟩) := by
    apply Stores.tryCatch
    · exact Stores.bind (.request ⟨texts.eventId,texts.eventType,correlation⟩) (fun _ => trivial)
    · intro error
      split
      next => exact Stores.bind (.request trivial) (fun _ => trivial)
      next => exact trivial
  have inserts : Stores (OutboxTransactionService.runInTransaction
      ⟨event.eventId,eventTypeName,some event.correlationId⟩
      (request (.saveMessage (MessagingService.newMessage ⟨some event.payload.subject,some event.payload.content⟩)))
      [MessagingService.messagePersisted ⟨some event.payload.subject,some event.payload.content⟩
        (some event.correlationId)]) := by
    apply Stores.bind ledger
    intro inserted
    cases inserted with
    | false => exact trivial
    | true =>
      refine Stores.bind (.request ⟨texts.subject,texts.content,sender⟩) ?_
      intro saved
      apply Stores.bind announced
      intro done
      exact Stores.bind (.request trivial) (fun _ => trivial)
  have envelope : Stores (MessagingService.handleMessageCreationIdempotent
      ⟨some event.payload.subject,some event.payload.content⟩ event.eventId eventTypeName
      (some event.correlationId)) := by
    refine Stores.bind (.request trivial) ?_
    intro connected
    refine Stores.bind (.request trivial) ?_
    intro started
    refine Stores.tryFinally ?_ (.request trivial)
    apply Stores.tryCatch inserts
    intro error
    exact Stores.bind (.request trivial) (fun _ => trivial)
  apply Stores.bind envelope
  intro outcome
  cases outcome with
  | duplicate =>
    exact .bind (.request trivial) (fun _ => .bind (.request trivial) (fun _ => .request trivial))
  | processed message =>
    exact .bind (.request trivial) (fun _ => .bind (.request trivial) (fun _ =>
      .bind (.request trivial) (fun _ => .request trivial)))

section accepted
variable {zod : Schema.Library} {raw : Option (Json Utf16)} {version : SchemaVersion}
  {accepted : ContractEvent Utf16} {event : CreateMessageEventV2 Utf16}

/-- What validation and upcast let through has identifiers of the library's format and a subject of limited
length. -/
theorem normalize_formed (valid : validateEvent zod raw version = .ok accepted)
    (normal : MessagingController.normalize accepted = .valid event) :
    event.envelope.Formed zod ∧ Schema.Within (some 1) (some 255) event.payload.subject := by
  cases version with
  | v1 =>
    obtain ⟨v1,rfl,read⟩ := validateEvent_v1.mp valid
    obtain ⟨envelope,_,_,_,_,_,payload⟩ := v1Event_valid.mp read
    obtain ⟨same,subject,-⟩ := (upcast_eq_iff read event).mp normal
    rw [same,subject]
    exact ⟨envelope,(v1Payload_valid.mp payload).1.subject⟩
  | v2 =>
    obtain ⟨v2,rfl,read⟩ := validateEvent_v2.mp valid
    obtain ⟨envelope,_,_,_,_,_,payload⟩ := v2Event_valid.mp read
    obtain rfl := Schema.Parsed.valid.inj normal
    exact ⟨envelope,(v2Payload_formed payload).subject⟩

theorem storedTexts (uuids : ∀ text, zod.uuid text = true → UuidShaped text)
    (valid : validateEvent zod raw version = .ok accepted)
    (normal : MessagingController.normalize accepted = .valid event)
    (subject : NulFree event.payload.subject ∧ event.payload.subject.WellFormed)
    (content : NulFree event.payload.content) : StoredTexts event version.eventTypeName where
  eventId := (uuids _ (normalize_formed valid normal).1.eventId).varchar
  correlationId := (uuids _ (normalize_formed valid normal).1.correlationId).varchar
  eventType := by cases version <;> decide
  subject :=
    ⟨(Utf16.length_pointsOf_le _).trans ((normalize_formed valid normal).2.2 255 rfl),subject.1⟩
  title := subject.2
  content := content

end accepted

def obliging : Environment Utf16 := fun _ request =>
  match request with
  | .randomUUID => (.ok "33333333-3333-4333-8333-333333333333",true)
  | request => (.ok (sampleReply request),true)

theorem obliging_supplies : obliging.Supplies := by
  intro log request
  cases request with
  | randomUUID => exact (by decide : UuidShaped "33333333-3333-4333-8333-333333333333")
  | inject => exact fun entry member => nomatch member
  | _ => trivial

section inserts
variable (event : CreateMessageEventV2 Utf16) (eventTypeName : String)

theorem obliging_saves : ∃ logged ∈ obliging.log (MessagingController.processEvent event eventTypeName),
    logged.request = .saveMessage ⟨event.payload.subject,event.payload.content,.encode "system-user"⟩ := by
  have fourth : (obliging.log (MessagingController.processEvent event eventTypeName))[3]? =
      some ⟨.saveMessage ⟨event.payload.subject,event.payload.content,.encode "system-user"⟩,
        .ok ⟨1,event.payload.subject,event.payload.content,.encode "system-user"⟩,true⟩ := rfl
  exact ⟨_,List.mem_of_getElem? fourth,rfl⟩

theorem obliging_announces : ∃ logged ∈ obliging.log (MessagingController.processEvent event eventTypeName),
    ∃ row, logged.request = .saveOutboxEvent row ∧ row.payload = (MessagingService.messagePersisted
      ⟨some event.payload.subject,some event.payload.content⟩ (some event.correlationId)).payload := by
  have eighth : (obliging.log (MessagingController.processEvent event eventTypeName))[7]? =
      some ⟨.saveOutboxEvent ⟨"33333333-3333-4333-8333-333333333333","MessagePersisted",
        (MessagingService.messagePersisted ⟨some event.payload.subject,some event.payload.content⟩
          (some event.correlationId)).payload,some event.correlationId,0,5,none⟩,.ok (),true⟩ := rfl
  exact ⟨_,List.mem_of_getElem? eighth,_,rfl,rfl⟩

/-- No run of the processing makes an insert that the columns refuse. -/
def AlwaysStorable : Prop :=
  ∀ environment : Environment Utf16, environment.Supplies →
    ∀ logged ∈ environment.log (MessagingController.processEvent event eventTypeName), Storable logged.request

variable {event eventTypeName}

theorem StoredTexts.always (texts : StoredTexts event eventTypeName) : AlwaysStorable event eventTypeName := by
  intro environment supplies logged member
  obtain ⟨before,after,split⟩ := List.append_of_mem member
  exact Environment.allowed environment (fun _ => ()) (fun log request => supplies log request)
    (processEvent_stores texts) split (Nat.zero_le _)

theorem AlwaysStorable.content (always : AlwaysStorable event eventTypeName) : NulFree event.payload.content := by
  obtain ⟨logged,member,saves⟩ := obliging_saves event eventTypeName
  have storable := always obliging obliging_supplies logged member
  rw [saves] at storable
  exact storable.2.1

theorem AlwaysStorable.subject (always : AlwaysStorable event eventTypeName) :
    NulFree event.payload.subject ∧ event.payload.subject.WellFormed := by
  obtain ⟨logged,member,row,saves,payload⟩ := obliging_announces event eventTypeName
  have storable := always obliging obliging_supplies logged member
  rw [saves] at storable
  exact jsonb_messagePersisted_iff.mp (payload ▸ storable.2.2.1)

end inserts

/-- The columns take all inserts for an accepted event exactly when neither its subject nor its content
holds U+0000 and no surrogate stands alone in its subject. -/
theorem contract_storable_iff (zod : Schema.Library) (uuids : ∀ text, zod.uuid text = true → UuidShaped text)
    (raw : Option (Json Utf16)) (version : SchemaVersion) (accepted : ContractEvent Utf16)
    (valid : validateEvent zod raw version = .ok accepted) (event : CreateMessageEventV2 Utf16)
    (normal : MessagingController.normalize accepted = .valid event) :
    AlwaysStorable event version.eventTypeName ↔
      (NulFree event.payload.subject ∧ event.payload.subject.WellFormed) ∧ NulFree event.payload.content :=
  ⟨fun always => ⟨always.subject,always.content⟩,
    fun texts => (storedTexts uuids valid normal texts.1 texts.2).always⟩

def strictLibrary : Schema.Library := { sampleLibrary with
  uuid := fun text => text.length == 36 && text.toList.all (fun c => c.isAlphanum || c == '-') }

theorem strictLibrary_uuids (text : String) (uuid : strictLibrary.uuid text = true) : UuidShaped text := by
  simp only [strictLibrary,Bool.and_eq_true,beq_iff_eq] at uuid
  refine ⟨uuid.1,?_⟩
  intro zero
  exact absurd (List.all_eq_true.mp uuid.2 _ (Utf16.zero_mem_encode zero)) (by decide)

def textsEvent (subject content : Utf16) : CreateMessageEventV1 Utf16 :=
  ⟨"11111111-1111-4111-8111-111111111111","22222222-2222-4222-8222-222222222222",
    "2026-01-01T00:00:00.000Z",.gateway,[.gateway],none,⟨subject,content,none⟩⟩

def upcastTexts (subject content : Utf16) : CreateMessageEventV2 Utf16 :=
  ⟨"11111111-1111-4111-8111-111111111111","22222222-2222-4222-8222-222222222222",
    "2026-01-01T00:00:00.000Z",.gateway,[.gateway],⟨subject,content,none,.normal,[]⟩⟩

theorem plain_texts_storable :
    AlwaysStorable (upcastTexts (.encode "a") (.encode "b")) SchemaVersion.v1.eventTypeName :=
  (contract_storable_iff strictLibrary strictLibrary_uuids
    (some (ContractEvent.v1 (textsEvent (.encode "a") (.encode "b"))).toJson) .v1
    (.v1 (textsEvent (.encode "a") (.encode "b"))) (by rfl) (upcastTexts (.encode "a") (.encode "b"))
    (by rfl)).mpr (by decide)

/-- What the contract accepts of an event with these texts, the columns take. -/
def AcceptedStorable (subject content : Utf16) : Prop := ∀ accepted event,
  validateEvent strictLibrary (some (ContractEvent.v1 (textsEvent subject content)).toJson) .v1 = .ok accepted →
  MessagingController.normalize accepted = .valid event →
  AlwaysStorable event SchemaVersion.v1.eventTypeName

/-- The contract takes a content that no column of Postgres does, and a subject that `jsonb` does not. -/
theorem accepted_texts_refused : ¬ AcceptedStorable (.encode "a") (.encode "a\x00b") ∧
    ¬ AcceptedStorable ⟨[0x61,0xD800]⟩ (.encode "b") := by
  constructor
  · intro storable
    have always := storable (.v1 (textsEvent (.encode "a") (.encode "a\x00b")))
      (upcastTexts (.encode "a") (.encode "a\x00b")) (by rfl) (by rfl)
    exact absurd always.content (by decide)
  · intro storable
    have always := storable (.v1 (textsEvent ⟨[0x61,0xD800]⟩ (.encode "b")))
      (upcastTexts ⟨[0x61,0xD800]⟩ (.encode "b")) (by rfl) (by rfl)
    exact absurd always.subject.2 (by decide)

end MessagingPlatform.Consumer

import MessagingPlatform.Consumer.Transport
import MessagingPlatform.Outbox.System

/-! What the gateway records for a validated event, and what the messaging service makes of the
body that the gateway's relay publishes for it. -/
namespace MessagingPlatform.Gateway
open Outbox Consumer Schema

structure GatewayOutboxEventInput where
  eventType : String
  payload : Json
  correlationId : Option String
  eventId : Option String
  maxAttempts : Option Int

/-- The columns that `insertOutboxEvent` sets, under the id that the table assigns. -/
def GatewayOutboxTransactionService.insertOutboxEvent (event : GatewayOutboxEventInput) (id : Nat)
    (randomUUID : String) (traceContext : TraceCarrier) : Recorded where
  id := id
  eventType := event.eventType
  payload := event.payload
  correlationId := event.correlationId
  maxAttempts := event.maxAttempts.getD 5
  eventId := some (event.eventId.getD randomUUID)
  traceContext := if traceContext.length > 0 then some traceContext else none

def AppController.recorded (zod : Library) (version : SchemaVersion) (event : Option Json)
    (correlationId : String) : Except (List ValidationFailureDetail) GatewayOutboxEventInput :=
  (validateEvent zod event version).map (fun valid => {
    eventType := version.eventTypeName
    payload := valid.toJson
    correlationId := some correlationId
    eventId := some valid.eventId
    maxAttempts := none })

def FramingAgrees (publication : Publication) (event : Json) : Prop :=
  dispatch publication.body = some (.handleMessage,some event)

theorem toJson_get? (event : ContractEvent) : event.toJson.get? "pattern" = none := by
  cases event with
  | v1 event =>
    have other : "pattern" ∉ ["eventId","correlationId","timestamp","source","trace","schemaVersion",
      "type","payload"] := by decide
    exact Json.get?_ofFields_none other
  | v2 event =>
    have other : "pattern" ∉ ["eventId","correlationId","timestamp","source","trace","schemaVersion",
      "type","payload"] := by decide
    exact Json.get?_ofFields_none other

/-- A body that is the event itself names no pattern, so no handler is called. -/
theorem dispatch_event (event : ContractEvent) : dispatch (.stringify event.toJson) = none := by
  unfold dispatch
  rw [Body.parse_stringify,Option.bind_some,toJson_get?]

/-- No command of the gateway ever reaches `handleMessage`: the relay publishes the bare event,
and the transport expects it inside a packet. -/
theorem gateway_command_undispatched (zod : Library) (version : SchemaVersion) (event : Option Json)
    (correlationId : String) (input : GatewayOutboxEventInput)
    (accepted : AppController.recorded zod version event correlationId = .ok input)
    (id : Nat) (randomUUID : String) (traceContext : TraceCarrier) (row : OutboxEvent)
    (inserted : row.recorded =
      GatewayOutboxTransactionService.insertOutboxEvent input id randomUUID traceContext)
    (carrier : TraceCarrier) :
    dispatch (gatewayOutboxRelayService.publication row.claimed carrier).body = none ∧
      ¬ FramingAgrees (gatewayOutboxRelayService.publication row.claimed carrier) input.payload := by
  have payload : row.payload = input.payload := congrArg Recorded.payload inserted
  have dropped : dispatch (gatewayOutboxRelayService.publication row.claimed carrier).body = none := by
    change dispatch (.stringify row.payload) = none
    rw [payload]
    unfold AppController.recorded at accepted
    cases validated : validateEvent zod event version with
    | error errors => rw [validated] at accepted; cases accepted
    | ok valid =>
      rw [validated] at accepted
      obtain rfl := Except.ok.inj accepted
      exact dispatch_event valid
  refine ⟨dropped,?_⟩
  intro agrees
  exact absurd (dropped.symm.trans agrees) (by simp)

def sampleInput : Except (List ValidationFailureDetail) GatewayOutboxEventInput :=
  AppController.recorded sampleLibrary .v1 (some sampleEvent) "22222222-2222-4222-8222-222222222222"

theorem test_message_undispatched : ∃ input row, sampleInput = .ok input ∧
    dispatch (gatewayOutboxRelayService.publication (OutboxEvent.claimed row) []).body = none ∧
    ¬ FramingAgrees (gatewayOutboxRelayService.publication row.claimed []) input.payload := by
  obtain ⟨input,accepted⟩ : ∃ input, sampleInput = .ok input := ⟨_,rfl⟩
  let recorded := GatewayOutboxTransactionService.insertOutboxEvent input 1 "u-1" []
  exact ⟨input,recorded.row 0,accepted,gateway_command_undispatched sampleLibrary .v1 (some sampleEvent)
    "22222222-2222-4222-8222-222222222222" input accepted 1 "u-1" [] (recorded.row 0) rfl []⟩

/-- The test message of the gateway is recorded, published and rejected. -/
theorem test_message_misframed : ¬ ∀ (zod : Library) version event correlationId input,
    AppController.recorded zod version event correlationId = .ok input →
    ∀ (row : OutboxEvent) carrier, row.payload = input.payload →
      FramingAgrees (gatewayOutboxRelayService.publication row.claimed carrier) input.payload := by
  intro agrees
  obtain ⟨input,accepted⟩ : ∃ input, sampleInput = .ok input := ⟨_,rfl⟩
  let recorded := GatewayOutboxTransactionService.insertOutboxEvent input 1 "u-1" []
  have framed := agrees sampleLibrary .v1 (some sampleEvent) _ input accepted (recorded.row 0) [] rfl
  obtain rfl := Except.ok.inj accepted
  cases framed

end MessagingPlatform.Gateway

import MessagingPlatform.Consumer.Hops

/-! The consumer of the dead-letter queue. What it records of a message it reads from the headers, and
these are written when a retry copy is scheduled, never when the message is dead-lettered. -/
namespace MessagingPlatform.Consumer

structure DlqMessage where
  content : Body
  headers : Headers
  routingKey : String

/-- The structured log record; its `dlq` member is always true. -/
structure DlqRecord where
  correlationId : Option String
  errorClass : String
  retryCount : JsNumber
  firstError : String
  failedAt : String
  originalQueue : String
  deathReason : String
  routingKey : String
  payload : Json

inductive DlqAction where
  | warn (text : String)
  | error (record : DlqRecord)
  | addEvent (correlationId errorClass : String) (retryCount : JsNumber) (originalQueue deathReason : String)
  | incDlqMessagesTotal (service errorClass originalQueue : String)
  | ack

namespace DlqConsumerService

def text? (headers : Headers) (name : String) : Option String :=
  match headers.lookup name with
  | some (.str text) => some text
  | _ => none

/-- `headers['x-death']?.[0]`. -/
def firstDeath? (headers : Headers) : Option Json :=
  match headers.lookup "x-death" with
  | some (.json (.arr deaths)) => deaths.head?
  | some (.json (.obj fields)) => fields.lookup "0"
  | _ => none

def deathField (headers : Headers) (name : String) : String :=
  match (firstDeath? headers).bind (fun death => death.get? name) with
  | some (.str text) => text
  | _ => "unknown"

def parsedPayload : Body → Json
  | .json value => value
  | .text bytes => .str bytes

def record (message : DlqMessage) : DlqRecord where
  correlationId := text? message.headers "x-correlation-id"
  errorClass := (text? message.headers "x-error-class").getD "UNKNOWN"
  retryCount := MessagingController.readRetryCount message.headers
  firstError := (text? message.headers "x-first-error").getD "unknown"
  failedAt := (text? message.headers "x-failed-at").getD "unknown"
  originalQueue := deathField message.headers "queue"
  deathReason := deathField message.headers "reason"
  routingKey := message.routingKey
  payload := parsedPayload message.content

/-- What the handler does, in its order; `none` is a cancelled consumer. -/
def handleDlqMessage : Option DlqMessage → List DlqAction
  | none => [.warn "DLQ consumer cancelled by broker"]
  | some message =>
      let record := record message
      [.error record,
        .addEvent (record.correlationId.getD "unknown") record.errorClass record.retryCount record.originalQueue
          record.deathReason,
        .incDlqMessagesTotal "messaging" record.errorClass record.originalQueue,
        .ack]

end DlqConsumerService

/-- The next delivery fails, `handleMessage` nacks it without requeue, and the broker moves it to the
DLQ. -/
structure DeadLettered (settings : Settings) (message : Envelope) (hops : List Hop) (delivery : Delivery)
    (failure : Failure) (dead : DlqMessage) : Prop where
  delivered : Delivers (latest message hops).1 (latest message hops).2 delivery
  nacked : ∃ environment : Environment, Fails settings delivery environment failure ∧
    ∃ outcome effective, ⟨.nack false,outcome,effective⟩ ∈
      environment.log (MessagingController.handleMessage settings.engine settings.zod delivery)
  content : dead.content = delivery.content
  headers : ∀ name, name ∉ deathHeaders → dead.headers.lookup name = delivery.headers.lookup name

def Accurate (dead : DlqMessage) (failures : List Failure) (last : Failure) (hops : List Hop) : Prop :=
  ∃ record originalQueue first, .error record ∈ DlqConsumerService.handleDlqMessage (some dead) ∧
    .incDlqMessagesTotal "messaging" (classifyError last.error).name originalQueue ∈
      DlqConsumerService.handleDlqMessage (some dead) ∧
    (failures ++ [last]).head? = some first ∧
    record.errorClass = (classifyError last.error).name ∧
    record.firstError = first.error.message ∧
    record.failedAt = toIsoString first.instant ∧
    record.retryCount = .finite hops.length

open DlqConsumerService

def Unmarked (message : Envelope) : Prop :=
  ∀ name ∈ ["x-retry-count","x-first-error","x-error-class","x-failed-at"], message.headers.lookup name = none

theorem Unmarked.untracked {message : Envelope} (unmarked : Unmarked message) : Untracked message := by
  intro name tracks
  apply unmarked name
  simp only [List.mem_cons,List.not_mem_nil,or_false] at tracks ⊢
  rcases tracks with rfl | rfl | rfl <;> simp

section
variable {settings : Settings} {message : Envelope} {hops : List Hop} {delivery : Delivery} {last : Failure}
  {dead : DlqMessage}

theorem DeadLettered.lookup (deadLettered : DeadLettered settings message hops delivery last dead) {name : String}
    (kept : name ∉ deathHeaders) : dead.headers.lookup name = (latest message hops).2.lookup name :=
  (deadLettered.headers name kept).trans (deadLettered.delivered.headers name kept)

theorem record_unhopped (deadLettered : DeadLettered settings message [] delivery last dead)
    (unmarked : Unmarked message) : (record dead).errorClass = "UNKNOWN" := by
  have absent := (deadLettered.lookup (by decide)).trans (unmarked "x-error-class" (by decide))
  unfold record text?
  dsimp only
  rw [absent]
  rfl

/-- The record of a message that hopped tells of its first hop, and of a transient failure. -/
theorem record_hopped {first : Hop} (deadLettered : DeadLettered settings message hops delivery last dead)
    (chain : Chain settings message hops) (untracked : Untracked message)
    (own : ∀ hop ∈ hops, ∀ entry ∈ hop.carrier, entry.1 ∈ traceHeaders) (starts : hops.head? = some first) :
    (record dead).errorClass = ErrorClass.transient.name ∧
    (record dead).firstError = first.failure.error.message ∧
    (record dead).failedAt = toIsoString first.failure.instant ∧
    (record dead).retryCount = .finite (countAfter hops.length) := by
  rcases List.eq_nil_or_concat' hops with rfl | ⟨front,hop,rfl⟩
  · cases starts
  · obtain ⟨copied,_,_⟩ := chain.copied untracked own starts
    have headers : (latest message (front ++ [hop])).2 = hop.copy.headers := by rw [latest_append]
    have read : ∀ name, name ∉ deathHeaders → dead.headers.lookup name = hop.copy.headers.lookup name := by
      intro name kept
      rw [deadLettered.lookup kept,headers]
    unfold record text? MessagingController.readRetryCount
    dsimp only
    rw [read "x-error-class" (by decide),read "x-first-error" (by decide),read "x-failed-at" (by decide),
      read "x-retry-count" (by decide),copied.errorClass,copied.firstError,copied.failedAt,copied.counted]
    simp

end

theorem errorClass_name_injective {left right : ErrorClass} (same : left.name = right.name) : left = right := by
  cases left <;> cases right <;> first | rfl | exact absurd same (by decide)

theorem errorClass_name_known (errorClass : ErrorClass) : errorClass.name ≠ "UNKNOWN" := by
  cases errorClass <;> decide

/-- The DLQ record of a message agrees with its run if and only if it hopped, the failure that
dead-lettered it was transient, its first hop tells of its first failed attempt, and its hops can be
counted. -/
theorem dlq_record_accurate_iff (settings : Settings) (message : Envelope) (failures : List Failure)
    (hops : List Hop) (life : Life settings message failures hops) (unmarked : Unmarked message)
    (own : ∀ hop ∈ hops, ∀ entry ∈ hop.carrier, entry.1 ∈ traceHeaders) (delivery : Delivery) (last : Failure)
    (dead : DlqMessage) (deadLettered : DeadLettered settings message hops delivery last dead) :
    Accurate dead failures last hops ↔
      ∃ start first, hops.head? = some start ∧ (failures ++ [last]).head? = some first ∧
        classifyError last.error = .transient ∧ start.failure.error.message = first.error.message ∧
        toIsoString start.failure.instant = toIsoString first.instant ∧ hops.length ≤ 2 ^ 53 := by
  constructor
  · intro accurate
    obtain ⟨logged,originalQueue,first,errors,_,begins,errorClass,firstError,failedAt,counted⟩ := accurate
    have same : logged = record dead := by simpa [handleDlqMessage] using errors
    subst same
    cases starts : hops.head? with
    | none =>
      rw [List.head?_eq_none_iff] at starts
      subst starts
      rw [record_unhopped deadLettered unmarked] at errorClass
      exact absurd errorClass.symm (errorClass_name_known _)
    | some start =>
      obtain ⟨hoppedClass,hoppedError,hoppedAt,hoppedCount⟩ :=
        record_hopped deadLettered life.chain unmarked.untracked own starts
      exact ⟨start,first,rfl,begins,errorClass_name_injective (errorClass.symm.trans hoppedClass),
        hoppedError.symm.trans firstError,hoppedAt.symm.trans failedAt,
        countAfter_eq_iff.mp (hoppedCount.symm.trans counted)⟩
  · intro told
    obtain ⟨start,first,starts,begins,transient,sameError,sameTime,within⟩ := told
    obtain ⟨hoppedClass,hoppedError,hoppedAt,hoppedCount⟩ :=
      record_hopped deadLettered life.chain unmarked.untracked own starts
    refine ⟨record dead,(record dead).originalQueue,first,?_,?_,begins,?_,hoppedError.trans sameError,
      hoppedAt.trans sameTime,hoppedCount.trans (countAfter_eq_iff.mpr within)⟩
    · simp [handleDlqMessage]
    · rw [transient,← hoppedClass]
      simp [handleDlqMessage]
    · rw [transient]
      exact hoppedClass

def Event.deadLetters : Event → Bool
  | ⟨.nack requeue,_,_⟩ => !requeue
  | _ => false

theorem mem_of_deadLetters {log : List Event} (nacked : log.any Event.deadLetters = true) :
    ∃ outcome effective, (⟨.nack false,outcome,effective⟩ : Event) ∈ log := by
  obtain ⟨event,member,nacks⟩ := List.any_eq_true.mp nacked
  obtain ⟨request,outcome,effective⟩ := event
  cases request with
  | nack requeue =>
    have kept : requeue = false := by simpa [Event.deadLetters] using nacks
    subst kept
    exact ⟨outcome,effective,member⟩
  | _ => cases nacks

def deadMessage (delivery : Delivery) : DlqMessage := ⟨delivery.content,delivery.headers,RoutingKeys.work⟩

theorem deadLettered_sample {settings : Settings} {message : Envelope} {hops : List Hop} {environment : Environment}
    {delivery : Delivery} {failure : Failure}
    (delivered : Delivers (latest message hops).1 (latest message hops).2 delivery)
    (found : failureOf settings environment delivery = some failure)
    (nacked : (environment.log (MessagingController.handleMessage settings.engine settings.zod delivery)).any
      Event.deadLetters = true) : DeadLettered settings message hops delivery failure (deadMessage delivery) where
  delivered := delivered
  nacked := ⟨environment,failureOf_fails found,mem_of_deadLetters nacked⟩
  content := rfl
  headers _ _ := rfl

def exhaustedConnection : Environment := fun log request =>
  match request with
  | .recordAttempt _ => (.ok [5],true)
  | request => brokenConnection log request

theorem exhausted_record_accurate :
    let hop := (hopOf sampleConsumer brokenConnection sampleDelivery).get brokenConnection_hops
    let delivery : Delivery := ⟨hop.copy.body,hop.copy.headers,sampleDelivery.data⟩
    let last := (failureOf sampleConsumer exhaustedConnection delivery).get (by decide +kernel)
    Accurate (deadMessage delivery) [hop.failure] last [hop] := by
  intro hop delivery last
  obtain ⟨first,made⟩ : hop.delivery = sampleDelivery ∧ hop.Made sampleConsumer := hopOf_made (Option.some_get _).symm
  have body : hop.copy.body = sampleEnvelope.body := by
    rw [made.copied.2,first]
    rfl
  have dispatched : dispatch sampleEnvelope.body = some (.handleMessage,sampleDelivery.data) := rfl
  have life : Life sampleConsumer sampleEnvelope [hop.failure] [hop] := by
    apply Life.hop .start _ made
    rw [first]
    exact ⟨rfl,dispatched,fun _ _ => rfl⟩
  have carried : dispatch hop.copy.body = some (.handleMessage,sampleDelivery.data) := by
    rw [body]
    exact dispatched
  have delivered : Delivers (latest sampleEnvelope [hop]).1 (latest sampleEnvelope [hop]).2 delivery :=
    ⟨rfl,carried,fun _ _ => rfl⟩
  exact (dlq_record_accurate_iff sampleConsumer sampleEnvelope [hop.failure] [hop] life (fun _ _ => rfl)
    (by decide +kernel) delivery last (deadMessage delivery)
    (deadLettered_sample delivered (Option.some_get _).symm (by decide +kernel))).mpr
      ⟨hop,hop.failure,rfl,rfl,by decide +kernel,rfl,rfl,by decide⟩

/-- The message cannot be saved for a reason that is not transient: it is dead-lettered at once, and
the record knows nothing of it. -/
theorem permanent_record_inaccurate : ¬ ∀ (settings : Settings) (message : Envelope) (failures : List Failure)
    (hops : List Hop), Life settings message failures hops → Unmarked message →
    (∀ hop ∈ hops, ∀ entry ∈ hop.carrier, entry.1 ∈ traceHeaders) → ∀ (delivery : Delivery) (last : Failure)
    (dead : DlqMessage), DeadLettered settings message hops delivery last dead →
    Accurate dead failures last hops := by
  intro accurate
  let refused : Environment := sampleEnvironment savingMessage
  let last := (failureOf sampleConsumer refused sampleDelivery).get (by decide +kernel)
  have dispatched : dispatch sampleEnvelope.body = some (.handleMessage,sampleDelivery.data) := rfl
  have delivered : Delivers (latest sampleEnvelope []).1 (latest sampleEnvelope []).2 sampleDelivery :=
    ⟨rfl,dispatched,fun _ _ => rfl⟩
  have deadLettered : DeadLettered sampleConsumer sampleEnvelope [] sampleDelivery last (deadMessage sampleDelivery) :=
    deadLettered_sample delivered (Option.some_get _).symm (by decide +kernel)
  have unmarked : Unmarked sampleEnvelope := fun _ _ => rfl
  obtain ⟨logged,originalQueue,first,errors,_,_,errorClass,_⟩ := accurate sampleConsumer sampleEnvelope [] []
    .start unmarked (fun _ impossible => by cases impossible) sampleDelivery last (deadMessage sampleDelivery) deadLettered
  have same : logged = record (deadMessage sampleDelivery) := by simpa [handleDlqMessage] using errors
  subst same
  rw [record_unhopped deadLettered unmarked] at errorClass
  exact errorClass_name_known _ errorClass.symm

end MessagingPlatform.Consumer

import MessagingPlatform.Contracts.Backoff
import MessagingPlatform.Consumer.Discipline
import MessagingPlatform.Consumer.Failures

/-! Retry hops. A message fails, its copy goes through the retry queue and is delivered in turn; the
headers of a copy follow from those of the delivery it is a copy of, and so from hop to hop. -/
namespace MessagingPlatform.Consumer
open Schema

def injected? : (request : Request) → Except Thrown (Reply request) → Option TraceCarrier
  | .inject, .ok carrier => some carrier
  | _, _ => none

def lastCarrier (log : List Event) : Option TraceCarrier :=
  log.foldl (fun last event => (injected? event.request event.outcome).or last) none

def injecting (copies : TraceCarrier → Publication → Prop) :
    Protocol (Option TraceCarrier) Thrown Request Reply where
  allows
    | last, .publish _ copy => ∃ carrier, last = some carrier ∧ copies carrier copy
    | _, _ => True
  moves last request outcome after := after = (injected? request outcome).or last

section injection
variable {copies : TraceCarrier → Publication → Prop} {last : Option TraceCarrier}

theorem injecting_request {request : Request} (silent : ∀ channel copy, request ≠ .publish channel copy) :
    (injecting copies).Follows (Consumer.request request) last
      (fun after outcome => after = (injected? request outcome).or last) := by
  apply Protocol.Follows.call
  · cases request with
    | publish channel copy => exact absurd rfl (silent channel copy)
    | _ => trivial
  · intro outcome after moved
    exact moved

theorem injecting_before {Value : Type} {request : Request} {f : Reply request → Program Value}
    (silent : ∀ channel copy, request ≠ .publish channel copy)
    (continues : ∀ value after, after = (injected? request (.ok value)).or last →
      (injecting copies).Follows (f value) after (fun _ _ => True)) :
    (injecting copies).Follows ((Consumer.request request).bind f) last (fun _ _ => True) :=
  (injecting_request silent).bind (fun after value moved => continues value after moved) (fun _ _ _ => trivial)

theorem injecting_last {request : Request} (silent : ∀ channel copy, request ≠ .publish channel copy) :
    (injecting copies).Follows (Consumer.request request) last (fun _ _ => True) :=
  (injecting_request silent).mono (fun _ _ _ => trivial)

end injection

def retryCopy (engine : Engine) (delivery : Delivery) (failure : Failure) (carrier : TraceCarrier) : Publication :=
  let nextAttempt := (MessagingController.readRetryCount delivery.headers).add (.finite 1)
  RetryPublisherService.publication engine delivery.content
    (MessagingController.retryHeaders delivery.headers nextAttempt failure.error.message
      (classifyError failure.error) failure.instant failure.event.correlationId) nextAttempt carrier

theorem publishToRetry_injecting (engine : Engine) (payload : Body) (headers : Headers) (attemptNumber : JsNumber)
    (correlationId : String) {copies : TraceCarrier → Publication → Prop} {last : Option TraceCarrier}
    (copied : ∀ carrier, copies carrier
      (RetryPublisherService.publication engine payload headers attemptNumber carrier)) :
    (injecting copies).Follows
      (RetryPublisherService.publishToRetry engine payload headers attemptNumber correlationId) last
      (fun _ _ => True) := by
  apply injecting_before (fun _ _ impossible => by cases impossible)
  intro channel after _
  apply injecting_before (fun _ _ impossible => by cases impossible)
  intro carrier latest injected
  have written : latest = some carrier := injected
  apply Protocol.Follows.bind (M := fun _ _ => True)
  · exact Protocol.Follows.call ⟨carrier,written,copied carrier⟩ (fun _ _ _ => trivial)
  · intro final published _
    cases published with
    | false => exact trivial
    | true => exact injecting_last (fun _ _ impossible => by cases impossible)
  · intro final error _
    trivial

/-- The decision publishes the retry copy of a transient failure and nothing else. -/
theorem conclude_injecting (engine : Engine) (delivery : Delivery) (failure : Failure)
    (last : Option TraceCarrier) :
    (injecting (fun carrier copy => classifyError failure.error = .transient ∧
      copy = retryCopy engine delivery failure carrier)).Follows
      (MessagingController.conclude engine delivery (some failure)) last (fun _ _ => True) := by
  unfold MessagingController.conclude
  dsimp only
  split
  next retryable =>
    apply Protocol.Follows.bind (M := fun _ _ => True)
    · apply Protocol.Follows.tryCatch (M := fun _ _ => True)
      · apply Protocol.Follows.bind (M := fun _ _ => True)
        · exact publishToRetry_injecting _ _ _ _ _ (fun carrier => ⟨retryable.1,rfl⟩)
        · intro after done _
          trivial
        · intro after error _
          trivial
      · intro after scheduled _
        trivial
      · intro after error _
        exact injecting_before (fun _ _ impossible => by cases impossible) (fun _ _ _ => trivial)
    · intro after scheduled _
      cases scheduled with
      | false => exact trivial
      | true =>
        apply injecting_before (fun _ _ impossible => by cases impossible)
        intro acked latest _
        exact injecting_last (fun _ _ impossible => by cases impossible)
    · intro after error _
      trivial
  next => exact injecting_last (fun _ _ impossible => by cases impossible)

def eventOf (settings : Settings) (body : Body) (headers : Headers) : Option CreateMessageEventV2 :=
  match dispatch body with
  | some (.handleMessage,data) =>
      match MessagingController.validate settings.engine settings.zod headers data with
      | .ok event =>
          match MessagingController.normalize event with
          | .valid event => some event
          | .invalid _ _ => none
      | .error _ => none
  | _ => none

theorem eventOf_congr {settings : Settings} {body : Body} {headers other : Headers}
    (same : other.lookup schemaVersionHeader = headers.lookup schemaVersionHeader) :
    eventOf settings body other = eventOf settings body headers := by
  unfold eventOf MessagingController.validate MessagingController.schemaVersion
    MessagingController.readSchemaVersionHeader
  rw [same]

def Fails (settings : Settings) (delivery : Delivery) (environment : Environment) (failure : Failure) : Prop :=
  ((MessagingController.attempt settings.engine settings.zod delivery).evaluate environment.answer []).1 =
    .ok (some failure)

theorem attemptValid_event {environment : Environment} {eventTypeName : String} {event : CreateMessageEventV2}
    {log : List Event} {failure : Failure}
    (failed : ((MessagingController.attemptValid eventTypeName event).evaluate environment.answer log).1 =
      .ok (some failure)) : failure.event = event := by
  obtain ⟨count,_,_,failed⟩ := Async.evaluate_bind_ok _ failed
  obtain ⟨_,_,_,failed⟩ := Async.evaluate_bind_ok _ failed
  obtain ⟨_,_,_,failed⟩ := Async.evaluate_bind_ok _ failed
  obtain ⟨settled,_,_,failed⟩ := Async.evaluate_bind_ok _ failed
  cases settled with
  | ok done => cases failed
  | error error =>
    obtain ⟨now,_,_,failed⟩ := Async.evaluate_bind_ok _ failed
    obtain ⟨_,_,_,failed⟩ := Async.evaluate_bind_ok _ failed
    cases failed
    rfl

theorem Fails.event {settings : Settings} {delivery : Delivery} {environment : Environment} {failure : Failure}
    (fails : Fails settings delivery environment failure)
    (dispatched : dispatch delivery.content = some (.handleMessage,delivery.data)) :
    eventOf settings delivery.content delivery.headers = some failure.event := by
  unfold Fails MessagingController.attempt at fails
  cases validated : MessagingController.validate settings.engine settings.zod delivery.headers delivery.data with
  | error errors =>
    simp only [validated] at fails
    obtain ⟨_,_,_,impossible⟩ := Async.evaluate_bind_ok _ fails
    cases impossible
  | ok event =>
    cases upcast : MessagingController.normalize event with
    | invalid issues kept =>
      simp only [validated,upcast] at fails
      cases fails
    | valid processed =>
      simp only [validated,upcast] at fails
      rw [attemptValid_event fails]
      simp only [eventOf,dispatched,validated,upcast]

/-- One retry: a delivery, how it failed, the carrier that was injected, and the copy. -/
structure Hop where
  delivery : Delivery
  failure : Failure
  carrier : TraceCarrier
  copy : Publication

def Hop.Made (settings : Settings) (hop : Hop) : Prop :=
  ∃ environment : Environment, Fails settings hop.delivery environment hop.failure ∧
    ∃ before channel outcome effective after,
      environment.log (MessagingController.handleMessage settings.engine settings.zod hop.delivery) =
        before ++ ⟨.publish channel hop.copy,outcome,effective⟩ :: after ∧
      lastCarrier before = some hop.carrier

def hopOf (settings : Settings) (environment : Environment) (delivery : Delivery) : Option Hop :=
  let log := environment.log (MessagingController.handleMessage settings.engine settings.zod delivery)
  let attempt := MessagingController.attempt settings.engine settings.zod delivery
  let before := log.takeWhile (fun event => !event.diverts)
  match (attempt.evaluate environment.answer []).1, log.dropWhile (fun event => !event.diverts), lastCarrier before with
  | .ok (some failure), ⟨.publish _ copy,_,_⟩ :: _, some carrier => some ⟨delivery,failure,carrier,copy⟩
  | _, _, _ => none

theorem hopOf_made {settings : Settings} {environment : Environment} {delivery : Delivery} {hop : Hop}
    (found : hopOf settings environment delivery = some hop) : hop.delivery = delivery ∧ hop.Made settings := by
  unfold hopOf at found
  dsimp only at found
  split at found
  next failure channel copy outcome effective after carrier fails rest injected =>
    obtain rfl := Option.some.inj found
    refine ⟨rfl,environment,fails,_,channel,outcome,effective,after,?_,injected⟩
    rw [← rest]
    exact (List.takeWhile_append_dropWhile).symm
  next => cases found

/-- The failure of a hop is transient, and the copy follows from the delivery, the failure and the
carrier. -/
theorem Hop.Made.copied {settings : Settings} {hop : Hop} (made : hop.Made settings) :
    classifyError hop.failure.error = .transient ∧
      hop.copy = retryCopy settings.engine hop.delivery hop.failure hop.carrier := by
  obtain ⟨environment,fails,before,channel,outcome,effective,after,logged,injected⟩ := made
  have tried : ∃ log, (MessagingController.attempt settings.engine settings.zod hop.delivery).evaluate
      environment.answer [] = (.ok (some hop.failure),log) := ⟨_,Prod.ext fails rfl⟩
  obtain ⟨log,tried⟩ := tried
  have decided : ((MessagingController.conclude settings.engine hop.delivery (some hop.failure)).evaluate
      environment.answer log).2 = before ++ ⟨.publish channel hop.copy,outcome,effective⟩ :: after := by
    rw [← logged]
    unfold Environment.log
    rw [MessagingController.handleMessage_eq,Async.evaluate_bind,tried]
  have late : log.length ≤ before.length := by
    apply Nat.le_of_not_lt
    intro early
    obtain ⟨more,grown⟩ := environment.log_grows
      (MessagingController.conclude settings.engine hop.delivery (some hop.failure)) log
    have member : (⟨.publish channel hop.copy,outcome,effective⟩ : Event) ∈ log := by
      have same := grown.symm.trans decided
      have here := congrArg (fun events => events[before.length]?) same
      simp only [List.getElem?_append_left early,List.getElem?_append_right (Nat.le_refl _),Nat.sub_self,
        List.getElem?_cons_zero] at here
      exact List.mem_of_getElem? here
    have inside : (⟨.publish channel hop.copy,outcome,effective⟩ : Event) ∈
        ((MessagingController.attempt settings.engine settings.zod hop.delivery).evaluate environment.answer []).2 := by
      rw [tried]
      exact member
    rcases environment.asked (attempt_undecided settings.engine settings.zod hop.delivery) inside with
      impossible | impossible
    · cases impossible
    · cases impossible
  have moved : ∀ log request, (injecting (fun carrier copy => classifyError hop.failure.error = .transient ∧
      copy = retryCopy settings.engine hop.delivery hop.failure carrier)).moves (lastCarrier log) request
      (environment.answer log request).1 (lastCarrier (environment.answer log request).2) := by
    intro log request
    simp only [injecting,lastCarrier,Environment.answer,List.foldl_append,List.foldl_cons,List.foldl_nil]
  obtain ⟨carrier,last,transient,copied⟩ := environment.allowed lastCarrier moved
    (conclude_injecting settings.engine hop.delivery hop.failure (lastCarrier log)) decided late
  obtain rfl := Option.some.inj (injected.symm.trans last)
  exact ⟨transient,copied⟩

/-- The headers that the broker rewrites when it dead-letters a message. -/
def deathHeaders : List String :=
  ["x-death","x-first-death-exchange","x-first-death-queue","x-first-death-reason","x-last-death-exchange",
    "x-last-death-queue","x-last-death-reason"]

def trackingHeaders : List String :=
  ["x-retry-count","x-first-error","x-error-class","x-failed-at","x-correlation-id"]

/-- The broker hands a message to `handleMessage`, for the first time or again. -/
structure Delivers (body : Body) (headers : Headers) (delivery : Delivery) : Prop where
  content : delivery.content = body
  dispatched : dispatch body = some (.handleMessage,delivery.data)
  headers : ∀ name, name ∉ deathHeaders → delivery.headers.lookup name = headers.lookup name

def latest (message : Envelope) (hops : List Hop) : Body × Headers :=
  match hops.getLast? with
  | none => (message.body,message.headers)
  | some hop => (hop.copy.body,hop.copy.headers)

theorem latest_append (message : Envelope) (hops : List Hop) (hop : Hop) :
    latest message (hops ++ [hop]) = (hop.copy.body,hop.copy.headers) := by
  simp [latest]

/-- Every hop is made on a delivery of what the hop before it left. -/
inductive Chain (settings : Settings) (message : Envelope) : List Hop → Prop
  | nil : Chain settings message []
  | hop {hops : List Hop} {hop : Hop} (chain : Chain settings message hops)
      (delivered : Delivers (latest message hops).1 (latest message hops).2 hop.delivery)
      (made : hop.Made settings) : Chain settings message (hops ++ [hop])

theorem Chain.split {settings : Settings} {message : Envelope} {earlier later : List Hop} {hop : Hop}
    (chain : Chain settings message (earlier ++ hop :: later)) : Chain settings message earlier ∧
      Delivers (latest message earlier).1 (latest message earlier).2 hop.delivery ∧ hop.Made settings := by
  induction later using List.reverseRecOn with
  | nil =>
    generalize whole : earlier ++ [hop] = hops at chain
    cases chain with
    | nil => simp at whole
    | hop before delivered made =>
      obtain ⟨rfl,same⟩ := List.append_inj' whole rfl
      obtain rfl := List.singleton_inj.mp same
      exact ⟨before,delivered,made⟩
  | append_singleton front last ih =>
    apply ih
    generalize whole : earlier ++ hop :: (front ++ [last]) = hops at chain
    cases chain with
    | nil => simp at whole
    | hop before delivered made =>
      have regrouped : (earlier ++ hop :: front) ++ [last] = _ := (by simp : _ = _).trans whole
      obtain ⟨rfl,_⟩ := List.append_inj' regrouped rfl
      exact before

/-- The failed attempts and the hops of a message so far. A failed attempt either hops, or its delivery
comes back: it was given back, or its consumer crashed, or an operator replayed it. -/
inductive Life (settings : Settings) (message : Envelope) : List Failure → List Hop → Prop
  | start : Life settings message [] []
  | hop {failures : List Failure} {hops : List Hop} {hop : Hop} (life : Life settings message failures hops)
      (delivered : Delivers (latest message hops).1 (latest message hops).2 hop.delivery)
      (made : hop.Made settings) : Life settings message (failures ++ [hop.failure]) (hops ++ [hop])
  | back {failures : List Failure} {hops : List Hop} {delivery : Delivery} {environment : Environment}
      {failure : Failure} (life : Life settings message failures hops)
      (delivered : Delivers (latest message hops).1 (latest message hops).2 delivery)
      (fails : Fails settings delivery environment failure) : Life settings message (failures ++ [failure]) hops

theorem Life.chain {settings : Settings} {message : Envelope} {failures : List Failure} {hops : List Hop}
    (life : Life settings message failures hops) : Chain settings message hops := by
  induction life with
  | start => exact .nil
  | hop life delivered made ih => exact ih.hop delivered made
  | back life delivered fails ih => exact ih

/-- The count that the header has reached after some hops: beyond 2^53 adding one changes nothing. -/
def countAfter (hops : Nat) : Nat := min hops (2 ^ 53)

theorem countAfter_next (hops : Nat) :
    (JsNumber.finite (countAfter hops)).add (.finite 1) = .finite (countAfter (hops + 1)) := by
  unfold countAfter
  rcases Nat.lt_or_ge hops (2 ^ 53) with small | large
  · rw [Nat.min_eq_left small.le,Nat.min_eq_left small]
    have whole := @JsNumber.rounded_natCast (hops + 1) small
    push_cast at whole ⊢
    exact whole
  · rw [Nat.min_eq_right large,Nat.min_eq_right (by omega)]
    exact (by decide +kernel : (JsNumber.finite ((2 ^ 53 : Nat) : ℚ)).add (.finite 1) = .finite ((2 ^ 53 : Nat) : ℚ))

theorem countAfter_eq_iff {hops : Nat} :
    JsNumber.finite (countAfter hops) = .finite hops ↔ hops ≤ 2 ^ 53 := by
  unfold countAfter
  rw [JsNumber.finite.injEq,Nat.cast_inj]
  omega

theorem backoffMs_countAfter (hops : Nat) : backoffMs (countAfter hops) = backoffMs hops := by
  unfold countAfter
  rcases Nat.le_total hops (2 ^ 53) with small | large
  · rw [Nat.min_eq_left small]
  · rw [Nat.min_eq_right large]
    have capped : backoffMs 5 = 30000 := rfl
    have first := backoffMs_mono (by decide : 5 ≤ 2 ^ 53)
    have second := backoffMs_mono (by omega : 5 ≤ hops)
    have most := (backoffMs_bounds (2 ^ 53)).2
    have bound := (backoffMs_bounds hops).2
    omega

structure Tracked (settings : Settings) (message : Envelope) (hops : List Hop) (headers : Headers) : Prop where
  counted : MessagingController.readRetryCount headers = .finite (countAfter hops.length)
  firstError : MessagingController.header? headers "x-first-error" =
    hops.head?.map (fun first => .str first.failure.error.message)
  failedAt : MessagingController.header? headers "x-failed-at" =
    hops.head?.map (fun first => .str (toIsoString first.failure.instant))
  others : ∀ name, name ∉ traceHeaders ++ deathHeaders ++ trackingHeaders →
    headers.lookup name = message.headers.lookup name

section headers
variable {headers other : Headers} {name : String}

theorem header?_congr (same : other.lookup name = headers.lookup name) :
    MessagingController.header? other name = MessagingController.header? headers name := by
  unfold MessagingController.header?
  rw [same]

theorem readRetryCount_congr (same : other.lookup "x-retry-count" = headers.lookup "x-retry-count") :
    MessagingController.readRetryCount other = MessagingController.readRetryCount headers := by
  unfold MessagingController.readRetryCount
  rw [same]

theorem lookup_injectTraceContext {carrier : TraceCarrier} (own : ∀ entry ∈ carrier, entry.1 ∈ traceHeaders)
    (foreign : name ∉ traceHeaders) : (injectTraceContext headers carrier).lookup name = headers.lookup name := by
  apply Headers.lookup_spread
  intro among
  rw [List.map_map,List.mem_map] at among
  obtain ⟨entry,member,named⟩ := among
  exact foreign (named ▸ own entry member)

theorem Tracked.delivered {settings : Settings} {message : Envelope} {hops : List Hop}
    (tracked : Tracked settings message hops headers)
    (same : ∀ name, name ∉ deathHeaders → other.lookup name = headers.lookup name) :
    Tracked settings message hops other where
  counted := (readRetryCount_congr (same _ (by decide))).trans tracked.counted
  firstError := (header?_congr (same _ (by decide))).trans tracked.firstError
  failedAt := (header?_congr (same _ (by decide))).trans tracked.failedAt
  others name foreign := by
    have kept : name ∉ deathHeaders := by
      intro among
      exact foreign (List.mem_append_left _ (List.mem_append_right _ among))
    exact (same name kept).trans (tracked.others name foreign)

end headers

structure Copied (settings : Settings) (message : Envelope) (hops : List Hop) (first hop : Hop) : Prop where
  counted : hop.copy.headers.lookup "x-retry-count" = some (.num (.finite (countAfter (hops.length + 1))))
  firstError : hop.copy.headers.lookup "x-first-error" = some (.str first.failure.error.message)
  errorClass : hop.copy.headers.lookup "x-error-class" = some (.str ErrorClass.transient.name)
  failedAt : hop.copy.headers.lookup "x-failed-at" = some (.str (toIsoString first.failure.instant))
  correlated : hop.copy.headers.lookup "x-correlation-id" = some (.str hop.failure.event.correlationId)
  body : hop.copy.body = hop.delivery.content
  expires : hop.copy.expiration = some (toString (backoffMs (hops.length + 1)))
  others : ∀ name, name ∉ traceHeaders ++ deathHeaders ++ trackingHeaders →
    hop.copy.headers.lookup name = message.headers.lookup name

def retrySettings (hop : Hop) (attempt : Nat) : Headers := [
  ("x-retry-count",.num (.finite attempt)),
  ("x-first-error",(MessagingController.header? hop.delivery.headers "x-first-error").getD
    (.str hop.failure.error.message)),
  ("x-error-class",.str ErrorClass.transient.name),
  ("x-failed-at",(MessagingController.header? hop.delivery.headers "x-failed-at").getD
    (.str (toIsoString hop.failure.instant))),
  ("x-correlation-id",.str hop.failure.event.correlationId)]

theorem retrySettings_other (hop : Hop) (attempt : Nat) {name : String} (untracked : name ∉ trackingHeaders) :
    (retrySettings hop attempt).reverse.lookup name = none := by
  rw [List.lookup_eq_none_iff]
  intro entry member
  have named : entry.1 ∈ trackingHeaders := List.mem_map_of_mem (f := Prod.fst) (List.mem_reverse.mp member)
  have differs : name ≠ entry.1 := by
    intro same
    exact untracked (same ▸ named)
  simpa using differs

/-- What a hop has read of the first one, or would have written as the first one. -/
theorem getD_first {hops : List Hop} {first hop : Hop} (starts : (hops ++ [hop]).head? = some first)
    {header : Option HeaderValue} (read : Hop → String)
    (same : header = hops.head?.map (fun hop => .str (read hop))) : header.getD (.str (read hop)) = .str (read first) := by
  rw [same]
  cases hops with
  | nil =>
    obtain rfl := Option.some.inj starts
    rfl
  | cons start rest =>
    obtain rfl := Option.some.inj starts
    rfl

section copy
variable {settings : Settings} {message : Envelope} {hops : List Hop} {hop : Hop}

theorem Tracked.next (tracked : Tracked settings message hops hop.delivery.headers) :
    (MessagingController.readRetryCount hop.delivery.headers).add (.finite 1) =
      .finite (countAfter (hops.length + 1)) := by
  rw [tracked.counted,countAfter_next]

theorem Tracked.lookup_copy (tracked : Tracked settings message hops hop.delivery.headers)
    (made : hop.Made settings) (own : ∀ entry ∈ hop.carrier, entry.1 ∈ traceHeaders) {name : String}
    (foreign : name ∉ traceHeaders) : hop.copy.headers.lookup name =
      ((retrySettings hop (countAfter (hops.length + 1))).reverse.lookup name).or (hop.delivery.headers.lookup name) := by
  obtain ⟨transient,copied⟩ := made.copied
  rw [copied]
  refine (lookup_injectTraceContext own foreign).trans ?_
  rw [MessagingController.retryHeaders,Headers.lookup_spread_or,tracked.next,transient]
  rfl

theorem Tracked.copied {first : Hop} (tracked : Tracked settings message hops hop.delivery.headers)
    (starts : (hops ++ [hop]).head? = some first) (made : hop.Made settings)
    (own : ∀ entry ∈ hop.carrier, entry.1 ∈ traceHeaders) : Copied settings message hops first hop := by
  obtain ⟨_,copied⟩ := made.copied
  constructor
  · rw [tracked.lookup_copy made own (by decide)]
    simp [retrySettings,List.lookup_cons]
  · rw [tracked.lookup_copy made own (by decide),
      ← getD_first starts (fun hop => hop.failure.error.message) tracked.firstError]
    simp [retrySettings,List.lookup_cons]
  · rw [tracked.lookup_copy made own (by decide)]
    simp [retrySettings,List.lookup_cons]
  · rw [tracked.lookup_copy made own (by decide),
      ← getD_first starts (fun hop => toIsoString hop.failure.instant) tracked.failedAt]
    simp [retrySettings,List.lookup_cons]
  · rw [tracked.lookup_copy made own (by decide)]
    simp [retrySettings]
  · rw [copied]
    rfl
  · rw [copied]
    change some (settings.engine.print (retryDelayMs settings.engine _)) = _
    have positive : 1 ≤ countAfter (hops.length + 1) := by
      unfold countAfter
      omega
    rw [tracked.next,print_retryDelayMs settings.engine positive,backoffMs_countAfter]
  · intro name foreign
    have untraced : name ∉ traceHeaders := by
      intro among
      exact foreign (List.mem_append_left _ (List.mem_append_left _ among))
    have untracked : name ∉ trackingHeaders := by
      intro among
      exact foreign (List.mem_append_right _ among)
    rw [tracked.lookup_copy made own untraced,retrySettings_other hop _ untracked]
    exact tracked.others name foreign

end copy

theorem Copied.tracked {settings : Settings} {message : Envelope} {hops : List Hop} {first hop : Hop}
    (copied : Copied settings message hops first hop) (starts : (hops ++ [hop]).head? = some first) :
    Tracked settings message (hops ++ [hop]) hop.copy.headers where
  counted := by
    unfold MessagingController.readRetryCount
    rw [copied.counted]
    simp
  firstError := by
    unfold MessagingController.header?
    rw [copied.firstError,starts]
    rfl
  failedAt := by
    unfold MessagingController.header?
    rw [copied.failedAt,starts]
    rfl
  others := copied.others

/-- The message is first delivered without the headers that count its retries. -/
def Untracked (message : Envelope) : Prop :=
  ∀ name ∈ ["x-retry-count","x-first-error","x-failed-at"], message.headers.lookup name = none

theorem Untracked.tracked {message : Envelope} (untracked : Untracked message) (settings : Settings) :
    Tracked settings message [] message.headers where
  counted := by
    unfold MessagingController.readRetryCount
    rw [untracked "x-retry-count" (by decide)]
    rfl
  firstError := by
    unfold MessagingController.header?
    rw [untracked "x-first-error" (by decide)]
    rfl
  failedAt := by
    unfold MessagingController.header?
    rw [untracked "x-failed-at" (by decide)]
    rfl
  others _ _ := rfl

/-- After any hops the message has its body, and its headers say what happened to it. -/
theorem Chain.tracked {settings : Settings} {message : Envelope} {hops : List Hop}
    (chain : Chain settings message hops) (untracked : Untracked message)
    (own : ∀ hop ∈ hops, ∀ entry ∈ hop.carrier, entry.1 ∈ traceHeaders) :
    (latest message hops).1 = message.body ∧ Tracked settings message hops (latest message hops).2 := by
  induction chain with
  | nil => exact ⟨rfl,untracked.tracked settings⟩
  | @hop hops hop chain delivered made ih =>
    obtain ⟨body,tracked⟩ := ih (fun other member => own other (List.mem_append_left _ member))
    have carrier := own hop (List.mem_append_right _ (List.mem_singleton_self hop))
    obtain ⟨first,starts⟩ : ∃ first, (hops ++ [hop]).head? = some first := by
      cases hops with
      | nil => exact ⟨hop,rfl⟩
      | cons start rest => exact ⟨start,rfl⟩
    have copied := (tracked.delivered delivered.headers).copied starts made carrier
    rw [latest_append]
    exact ⟨(copied.body.trans delivered.content).trans body,copied.tracked starts⟩

/-- The hop after some others copies the message as it was first delivered, with the headers of a
retry that started with the first hop. -/
theorem Chain.copied {settings : Settings} {message : Envelope} {earlier later : List Hop} {first hop : Hop}
    (chain : Chain settings message (earlier ++ hop :: later)) (untracked : Untracked message)
    (own : ∀ other ∈ earlier ++ hop :: later, ∀ entry ∈ other.carrier, entry.1 ∈ traceHeaders)
    (starts : (earlier ++ hop :: later).head? = some first) :
    Copied settings message earlier first hop ∧ hop.copy.body = message.body ∧
      eventOf settings message.body message.headers = some hop.failure.event := by
  obtain ⟨before,delivered,made⟩ := chain.split
  obtain ⟨body,tracked⟩ := before.tracked untracked (fun other member => own other (List.mem_append_left _ member))
  have here : (earlier ++ [hop]).head? = some first := by
    cases earlier with
    | nil => exact starts
    | cons start rest => exact starts
  have arrived := tracked.delivered delivered.headers
  have copied := arrived.copied here made
    (own hop (List.mem_append_right _ List.mem_cons_self))
  have content := delivered.content.trans body
  refine ⟨copied,copied.body.trans content,?_⟩
  obtain ⟨environment,fails,_⟩ := made
  have dispatched := delivered.dispatched
  rw [← delivered.content] at dispatched
  have carried := fails.event dispatched
  rw [content] at carried
  exact (eventOf_congr (arrived.others schemaVersionHeader (by decide))).symm.trans carried

def Failure.reading (failure : Failure) : String × String := (failure.error.message,toIsoString failure.instant)

/-- The copy of hop `k + 1` tells of the hops so far, of the first failed attempt and of the message. -/
structure CopyTells (settings : Settings) (message : Envelope) (failures : List Failure) (k : Nat)
    (copy : Publication) : Prop where
  counted : copy.headers.lookup "x-retry-count" = some (.num (.finite (k + 1 : Nat)))
  firstError : copy.headers.lookup "x-first-error" = failures.head?.map (fun first => .str first.reading.1)
  failedAt : copy.headers.lookup "x-failed-at" = failures.head?.map (fun first => .str first.reading.2)
  correlated : ∃ event, eventOf settings message.body message.headers = some event ∧
    copy.headers.lookup "x-correlation-id" = some (.str event.correlationId)
  body : copy.body = message.body
  expires : copy.expiration = some (toString (min (2000 * 2 ^ k) 30000))
  others : ∀ name, name ∉ traceHeaders ++ deathHeaders ++ trackingHeaders →
    copy.headers.lookup name = message.headers.lookup name

/-- The copies of a message that was first delivered without retry headers tell of its first failed
attempt exactly when the failure of its first hop reads like it, and count as far as numbers do. -/
theorem retry_hop_headers_iff (settings : Settings) (message : Envelope) (failures : List Failure) (hops : List Hop)
    (life : Life settings message failures hops) (untracked : Untracked message)
    (own : ∀ hop ∈ hops, ∀ entry ∈ hop.carrier, entry.1 ∈ traceHeaders) (k : Nat) (hop : Hop)
    (here : hops[k]? = some hop) :
    CopyTells settings message failures k hop.copy ↔ k + 1 ≤ 2 ^ 53 ∧
      hops.head?.map (fun start => start.failure.reading) = failures.head?.map Failure.reading := by
  obtain ⟨earlier,later,parts,size⟩ : ∃ earlier later, hops = earlier ++ hop :: later ∧ earlier.length = k := by
    obtain ⟨bound,found⟩ := List.getElem?_eq_some_iff.mp here
    refine ⟨hops.take k,hops.drop (k + 1),?_,List.length_take_of_le (Nat.le_of_lt bound)⟩
    rw [← found,← List.drop_eq_getElem_cons bound,List.take_append_drop]
  obtain ⟨start,starts⟩ : ∃ start, hops.head? = some start := by
    rw [parts]
    cases earlier with
    | nil => exact ⟨hop,rfl⟩
    | cons start rest => exact ⟨start,rfl⟩
  subst parts
  obtain ⟨copied,body,carried⟩ := life.chain.copied untracked own starts
  have counted := copied.counted
  have expires := copied.expires
  rw [size] at counted expires
  rw [starts]
  constructor
  · intro tells
    have count := Option.some.inj (counted.symm.trans tells.counted)
    have error := copied.firstError.symm.trans tells.firstError
    have time := copied.failedAt.symm.trans tells.failedAt
    refine ⟨countAfter_eq_iff.mp (HeaderValue.num.inj count),?_⟩
    cases begins : failures.head? with
    | none =>
      rw [begins] at error
      cases error
    | some first =>
      rw [begins] at error time
      have sameError := HeaderValue.str.inj (Option.some.inj error)
      have sameTime := HeaderValue.str.inj (Option.some.inj time)
      exact congrArg some (Prod.ext sameError sameTime)
  · rintro ⟨within,same⟩
    rw [countAfter_eq_iff.mpr within] at counted
    obtain ⟨first,begins,reads⟩ := Option.map_eq_some_iff.mp same.symm
    have sameError : start.failure.error.message = first.reading.1 := congrArg Prod.fst reads.symm
    have sameTime : toIsoString start.failure.instant = first.reading.2 := congrArg Prod.snd reads.symm
    refine ⟨counted,?_,?_,⟨hop.failure.event,carried,copied.correlated⟩,body,expires,copied.others⟩
    · rw [copied.firstError,begins,sameError]
      rfl
    · rw [copied.failedAt,begins,sameTime]
      rfl

def sampleConsumer : Settings := ⟨sampleEngine,sampleLibrary⟩

def sampleEnvelope : Envelope := ⟨sampleDelivery.content,[],RoutingKeys.work⟩

def brokenConnection : Environment := fun _ request =>
  match request with
  | .saveMessage _ => (.error ⟨.error,"Error","Connection terminated",some "ECONNRESET",none⟩,false)
  | request => (.ok (sampleReply request),true)

theorem brokenConnection_hops : (hopOf sampleConsumer brokenConnection sampleDelivery).isSome = true := by
  decide +kernel

theorem second_copy_tells :
    let first := (hopOf sampleConsumer brokenConnection sampleDelivery).get brokenConnection_hops
    let second := (hopOf sampleConsumer brokenConnection
      ⟨first.copy.body,first.copy.headers,sampleDelivery.data⟩).get (by decide +kernel)
    CopyTells sampleConsumer sampleEnvelope [first.failure,second.failure] 1 second.copy := by
  intro first second
  obtain ⟨firstDelivery,firstMade⟩ : first.delivery = sampleDelivery ∧ first.Made sampleConsumer :=
    hopOf_made (Option.some_get _).symm
  obtain ⟨secondDelivery,secondMade⟩ : second.delivery = ⟨first.copy.body,first.copy.headers,sampleDelivery.data⟩ ∧
      second.Made sampleConsumer := hopOf_made (Option.some_get _).symm
  have body : first.copy.body = sampleEnvelope.body := by
    rw [firstMade.copied.2,firstDelivery]
    rfl
  have dispatched : dispatch sampleEnvelope.body = some (.handleMessage,sampleDelivery.data) := rfl
  have once : Life sampleConsumer sampleEnvelope [first.failure] [first] := by
    apply Life.hop .start _ firstMade
    rw [firstDelivery]
    exact ⟨rfl,dispatched,fun _ _ => rfl⟩
  have twice : Life sampleConsumer sampleEnvelope [first.failure,second.failure] [first,second] := by
    apply Life.hop once _ secondMade
    rw [secondDelivery]
    exact ⟨rfl,body ▸ dispatched,fun _ _ => rfl⟩
  have untracked : Untracked sampleEnvelope := fun _ _ => rfl
  have own : ∀ hop ∈ [first,second], ∀ entry ∈ hop.carrier, entry.1 ∈ traceHeaders := by decide +kernel
  exact (retry_hop_headers_iff sampleConsumer sampleEnvelope _ [first,second] twice untracked own 1 second rfl).mpr
    ⟨by decide,rfl⟩

def failureOf (settings : Settings) (environment : Environment) (delivery : Delivery) : Option Failure :=
  match ((MessagingController.attempt settings.engine settings.zod delivery).evaluate environment.answer []).1 with
  | .ok failure => failure
  | .error _ => none

theorem failureOf_fails {settings : Settings} {environment : Environment} {delivery : Delivery} {failure : Failure}
    (found : failureOf settings environment delivery = some failure) :
    Fails settings delivery environment failure := by
  unfold failureOf at found
  split at found
  next result resolved => rw [found] at resolved; exact resolved
  next => cases found

/-- The message cannot be saved in time, and the broker's buffer is full: the delivery is given back. -/
def backPressured : Environment := fun _ request =>
  match request with
  | .saveMessage _ => (.error ⟨.error,"Error","read ETIMEDOUT",some "ETIMEDOUT",none⟩,false)
  | .publish _ _ => (.ok false,true)
  | request => (.ok (sampleReply request),true)

/-- The first failed attempt gives its delivery back, and the copy of the next one tells of that one. -/
theorem given_back_failure_untold : ¬ ∀ (settings : Settings) (message : Envelope) (failures : List Failure)
    (hops : List Hop), Life settings message failures hops → Untracked message →
    (∀ hop ∈ hops, ∀ entry ∈ hop.carrier, entry.1 ∈ traceHeaders) → ∀ (k : Nat) (hop : Hop), hops[k]? = some hop →
    CopyTells settings message failures k hop.copy := by
  intro tells
  let first := (failureOf sampleConsumer backPressured sampleDelivery).get (by decide +kernel)
  let hop := (hopOf sampleConsumer brokenConnection sampleDelivery).get brokenConnection_hops
  obtain ⟨delivery,made⟩ : hop.delivery = sampleDelivery ∧ hop.Made sampleConsumer :=
    hopOf_made (Option.some_get _).symm
  have dispatched : dispatch sampleEnvelope.body = some (.handleMessage,sampleDelivery.data) := rfl
  have delivered : Delivers (latest sampleEnvelope []).1 (latest sampleEnvelope []).2 sampleDelivery :=
    ⟨rfl,dispatched,fun _ _ => rfl⟩
  have back : Life sampleConsumer sampleEnvelope [first] [] :=
    .back .start delivered (failureOf_fails (Option.some_get _).symm)
  have life : Life sampleConsumer sampleEnvelope [first,hop.failure] [hop] := by
    apply Life.hop back _ made
    rw [delivery]
    exact delivered
  have own : ∀ other ∈ [hop], ∀ entry ∈ other.carrier, entry.1 ∈ traceHeaders := by decide +kernel
  have told := tells sampleConsumer sampleEnvelope _ [hop] life (fun _ _ => rfl) own 0 hop rfl
  have copied := (@Chain.copied sampleConsumer sampleEnvelope [] [] hop hop life.chain (fun _ _ => rfl) own rfl).1
  have same := HeaderValue.str.inj (Option.some.inj (copied.firstError.symm.trans told.firstError))
  exact absurd same (by decide +kernel)

end MessagingPlatform.Consumer

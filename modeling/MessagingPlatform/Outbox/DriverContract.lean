import MessagingPlatform.Outbox.Relay

/-! The services under the result shape of the installed driver. `dataSource.query` resolves an
UPDATE … RETURNING to the pair of the returned rows and their number; the services read the
pair as if it were the rows. -/
namespace MessagingPlatform.Outbox

/-- An element of a query result: a row, the array of all rows, or the number of affected rows. -/
inductive Element (Row : Type) where
  | row (row : Row)
  | rows (rows : List Row)
  | count (affected : Nat)
deriving DecidableEq

def Driver.pair : Driver where
  Elem := Element
  result rows := [.rows rows,.count rows.length]
  row?
    | .row row => some row
    | .rows _ | .count _ => none

structure Session where
  table : Service → OutboxTable
  now : Int
  scan : List Nat
  reports : Nat

namespace Session

/-- Answers the requests of one program, which runs alone. -/
def answer (driver : Driver) (session : Session) :
    (request : Request) → Except Thrown (Reply driver request) × Session
  | .query service statement =>
      match statement.update (session.table service) session.now session.scan with
      | some update =>
          (.ok (driver.result (statement.returned ((session.table service).returning update))),
            { session with
              table := Function.update session.table service ((session.table service).apply update) })
      | none => (.error (.ofMessage "invalid input syntax for type timestamp"),session)
  | .getChannel _ => (.ok 0,session)
  | .inject _ => (.ok [],session)
  | .publish _ _ => (.ok true,session)
  | .waitForConfirms _ => (.ok (),session)
  | .newDate => (.ok session.now,session)
  | .fencedPublish _ => (.ok (),{ session with reports := session.reports + 1 })
  | .declare _ => (.ok (),session)

def run {driver : Driver} {Value : Type} (session : Session) (program : Program driver Value) :
    Except Thrown Value × Session :=
  program.evaluate (answer driver) session

theorem run_bind {driver : Driver} {A B : Type} (session : Session) (program : Program driver A)
    (f : A → Program driver B) : session.run (program.bind f) =
      match session.run program with
      | (.ok value,after) => after.run (f value)
      | (.error error,after) => (.error error,after) := by
  unfold run
  rw [Async.evaluate_bind]
  rcases program.evaluate (answer driver) session with ⟨outcome,after⟩
  cases outcome <;> rfl

theorem run_query {driver : Driver} (session : Session) {service : Service} {statement : Statement}
    {update : Update OutboxEvent OutboxEvent.id}
    (means : statement.update (session.table service) session.now session.scan = some update) :
    session.run (query service statement : Program driver (List (driver.Elem statement.Row))) =
      (.ok (driver.result (statement.returned ((session.table service).returning update))),
        { session with
          table := Function.update session.table service ((session.table service).apply update) }) := by
  unfold run query
  rw [Async.evaluate_call]
  simp only [answer,means]

end Session

inductive TickRequest (Elem : Type) where
  | claimBatch
  | publishOne (element : Elem)

abbrev TickReply {Elem : Type} : TickRequest Elem → Type
  | .claimBatch => List Elem
  | .publishOne _ => Unit

abbrev Ticking (Elem Value : Type) := Async Thrown (TickRequest Elem) TickReply Value

def claimCall {Elem : Type} : Ticking Elem (List Elem) := Async.call TickRequest.claimBatch

def publishCall {Elem : Type} (element : Elem) : Ticking Elem Unit :=
  Async.call (TickRequest.publishOne element)

/-- The claim resolves to `claimed`, and each call of `publishOne` is noted and ends as `outcome` says. -/
def answerTick {Elem : Type} (claimed : List Elem) (outcome : Elem → Except Thrown Unit)
    (calls : List Elem) : (request : TickRequest Elem) → Except Thrown (TickReply request) × List Elem
  | .claimBatch => (.ok claimed,calls)
  | .publishOne element => (outcome element,calls ++ [element])

def publishOneCalls {Elem : Type} (claimed : List Elem) (outcome : Elem → Except Thrown Unit) : List Elem :=
  ((relayTick claimCall publishCall).evaluate (answerTick claimed outcome) []).2

inductive Operation where
  | markSent (service : Service) (id : Nat) (lockVersion : Int)
  | markFailedAttempt (service : Service) (row : ClaimedRow) (err : Thrown)
  | runRelayTick (service : Service) (instanceId : String) (batchSize : Nat)
      (outcome : Element ClaimedRow → Except Thrown Unit)
  | replayById (service : Service) (id : Nat)
  | replayAllFailed (service : Service) (eventType : Option String)

def OutboxEvent.claimedAs (id : Nat) (lockVersion : Int) (row : OutboxEvent) : Bool :=
  row.id == id && row.lockVersion == lockVersion

def OutboxEvent.resettable (eventType : Option String) (row : OutboxEvent) : Bool :=
  row.status == .failed && (eventTypeFilter eventType).all (fun type => row.eventType == type)

/-- The operation decides by the rows that its UPDATE matched. -/
def Agrees (engine : Engine) (session : Session) : Operation → Prop
  | .markSent service id lockVersion =>
      (session.run (service.relay.markSent id lockVersion : Program .pair Bool)).1 = .ok true ↔
        ∃ row ∈ session.table service, row.claimedAs id lockVersion
  | .markFailedAttempt service claimed err =>
      (session.run (service.relay.markFailedAttempt engine claimed err : Program .pair Unit)).2.reports =
          session.reports + 1 ↔
        ¬ ∃ row ∈ session.table service, row.claimedAs claimed.id claimed.lockVersion
  | .runRelayTick service instanceId batchSize outcome =>
      ∀ update, (Statement.claim instanceId batchSize).update (session.table service) session.now
          session.scan = some update →
        publishOneCalls (Driver.pair.result
            (((session.table service).returning update).map OutboxEvent.claimed)) outcome =
          (((session.table service).returning update).map OutboxEvent.claimed).map Element.row
  | .replayById .messaging id =>
      (session.run (OutboxAdminService.replayById id : Program .pair ReplayResult)).1 =
          .error (OutboxAdminService.notFound id) ↔
        ¬ ∃ row ∈ session.table .messaging, row.id = id ∧ row.status = .failed
  | .replayById .gateway id =>
      (session.run (GatewayOutboxAdminService.replayById id : Program .pair Bool)).1 = .ok true ↔
        ∃ row ∈ session.table .gateway, row.id = id ∧ row.status = .failed
  | .replayAllFailed .messaging eventType =>
      let reset := (session.table .messaging).rows.filter (OutboxEvent.resettable eventType)
      (session.run (OutboxAdminService.replayAllFailed eventType : Program .pair ReplayResult)).1 =
        .ok ⟨reset.length,reset.map (fun row => some row.id)⟩
  | .replayAllFailed .gateway eventType =>
      let reset := (session.table .gateway).rows.filter (OutboxEvent.resettable eventType)
      (session.run (GatewayOutboxAdminService.replayAllFailed eventType : Program .pair Nat)).1 =
        .ok reset.length

/-- The rows for which the pair, read as an array of two rows, gives the right decision. -/
def Operation.HoldsWhen (session : Session) : Operation → Prop
  | .markSent service id lockVersion => ∃ row ∈ session.table service, row.claimedAs id lockVersion
  | .markFailedAttempt service claimed _ =>
      ∃ row ∈ session.table service, row.claimedAs claimed.id claimed.lockVersion
  | .runRelayTick _ _ _ _ => False
  | .replayById service id => ∃ row ∈ session.table service, row.id = id ∧ row.status = .failed
  | .replayAllFailed .messaging _ => False
  | .replayAllFailed .gateway eventType =>
      ((session.table .gateway).rows.filter (OutboxEvent.resettable eventType)).length = 2

section operations
variable (engine : Engine) (session : Session)

theorem markSent_pair (service : Service) (id : Nat) (lockVersion : Int) :
    (session.run (service.relay.markSent id lockVersion : Program .pair Bool)).1 = .ok true := by
  unfold RelayService.markSent
  rw [Async.bind_eq,Session.run_bind,Session.run_query session rfl]
  rfl

theorem newStatusAndRetryAt_run (attempts maxAttempts now : Int) :
    ∃ status instant, session.run (RelayService.newStatusAndRetryAt
      (computeFailureOutcome engine attempts maxAttempts now) : Program .pair _) =
        (.ok (status,some instant),session) := by
  cases outcome : computeFailureOutcome engine attempts maxAttempts now with
  | deadLetter newAttempts => exact ⟨_,_,rfl⟩
  | retry nextRetryAt newAttempts =>
    obtain ⟨instant,rfl⟩ := computeFailureOutcome_date outcome
    exact ⟨_,_,rfl⟩

theorem markFailedAttempt_pair (service : Service) (claimed : ClaimedRow) (err : Thrown) :
    (session.run (service.relay.markFailedAttempt engine claimed err : Program .pair Unit)).2.reports =
      session.reports := by
  unfold RelayService.markFailedAttempt
  obtain ⟨status,instant,scheduled⟩ := newStatusAndRetryAt_run engine session claimed.attempts
    claimed.maxAttempts session.now
  have clock : session.run (request .newDate : Program .pair Int) = (.ok session.now,session) := rfl
  simp only [Async.bind_eq]
  rw [Session.run_bind,clock]
  dsimp only
  rw [Session.run_bind,scheduled]
  dsimp only
  rw [Session.run_bind,Session.run_query session rfl]
  rfl

theorem relayTick_evaluate {Err Req State Elem : Type} {Reply : Req → Type}
    {answer : State → (request : Req) → Except Err (Reply request) × State}
    {claimBatch : Async Err Req Reply (List Elem)} {publishOne : Elem → Async Err Req Reply Unit}
    {elements : List Elem} {state after : State}
    (claims : claimBatch.evaluate answer state = (.ok elements,after)) (nonempty : elements.length ≠ 0) :
    (relayTick claimBatch publishOne).evaluate answer state =
      (elements.forM publishOne).evaluate answer after := by
  unfold relayTick
  simp only [Async.bind_eq,Async.evaluate_bind,Async.evaluate_tryCatch,claims,Async.evaluate_resolve,
    nonempty,if_false]

theorem forM_calls {Elem : Type} (claimed elements calls : List Elem) (outcome : Elem → Except Thrown Unit) :
    ∃ rest, (Async.evaluate (answerTick claimed outcome) (elements.forM publishCall) calls).2 =
      calls ++ rest := by
  induction elements generalizing calls with
  | nil => exact ⟨[],(List.append_nil calls).symm⟩
  | cons element others ih =>
    have calls_first : (element :: others).forM publishCall =
        (publishCall element).bind (fun _ => others.forM publishCall) := rfl
    rw [calls_first,Async.evaluate_bind,publishCall,Async.evaluate_call]
    simp only [answerTick]
    cases outcome element with
    | error error => exact ⟨[element],rfl⟩
    | ok done =>
      obtain ⟨rest,added⟩ := ih (calls ++ [element])
      exact ⟨element :: rest,by rw [added,List.append_assoc]; rfl⟩

theorem publishOneCalls_cons {Elem : Type} (first : Elem) (others : List Elem)
    (outcome : Elem → Except Thrown Unit) :
    ∃ rest, publishOneCalls (first :: others) outcome = first :: rest := by
  have claims : claimCall.evaluate (answerTick (first :: others) outcome) [] =
      (.ok (first :: others),[]) := Async.evaluate_call _ _ _
  have calls_first : (first :: others).forM publishCall =
      (publishCall first).bind (fun _ => others.forM publishCall) := rfl
  unfold publishOneCalls
  rw [relayTick_evaluate claims (by simp),calls_first,Async.evaluate_bind,publishCall,Async.evaluate_call]
  simp only [answerTick]
  cases outcome first with
  | error error => exact ⟨[],rfl⟩
  | ok done => exact forM_calls (first :: others) others [first] outcome

/-- Under the pair, a tick calls `publishOne` with the array of all claimed rows, even an empty one. -/
theorem tick_disagrees (service : Service) (instanceId : String) (batchSize : Nat)
    (outcome : Element ClaimedRow → Except Thrown Unit) :
    ¬ Agrees engine session (.runRelayTick service instanceId batchSize outcome) := by
  intro agrees
  have calls := agrees _ rfl
  generalize ((session.table service).returning _).map OutboxEvent.claimed = claimed at calls
  obtain ⟨rest,first⟩ := publishOneCalls_cons (Element.rows claimed) [.count claimed.length] outcome
  have both : Element.rows claimed :: rest = claimed.map Element.row := first.symm.trans calls
  cases claimed with
  | nil => cases both
  | cons row others => cases both

/-- The pair is never empty, so a replay always finds an element. -/
theorem replayById_pair (id : Nat) :
    (session.run (OutboxAdminService.replayById id : Program .pair ReplayResult)).1 =
      .ok ⟨1,[some id]⟩ := by
  unfold OutboxAdminService.replayById
  rw [Async.bind_eq,Session.run_bind,Session.run_query session rfl]
  rfl

theorem gateway_replayById_pair (id : Nat) :
    (session.run (GatewayOutboxAdminService.replayById id : Program .pair Bool)).1 = .ok true := by
  unfold GatewayOutboxAdminService.replayById
  rw [Async.bind_eq,Session.run_bind,Session.run_query session rfl]
  rfl

theorem replayAllFailed_pair (eventType : Option String) :
    (session.run (OutboxAdminService.replayAllFailed eventType : Program .pair ReplayResult)).1 =
      .ok ⟨2,[none,none]⟩ := by
  unfold OutboxAdminService.replayAllFailed
  rw [Async.bind_eq,Session.run_bind,Session.run_query session rfl]
  rfl

theorem gateway_replayAllFailed_pair (eventType : Option String) :
    (session.run (GatewayOutboxAdminService.replayAllFailed eventType : Program .pair Nat)).1 =
      .ok 2 := by
  unfold GatewayOutboxAdminService.replayAllFailed
  rw [Async.bind_eq,Session.run_bind,Session.run_query session rfl]
  rfl

/-- The ids of the pair's elements are undefined, so they are never those of reset rows. -/
theorem replayAllFailed_disagrees (eventType : Option String) :
    ¬ Agrees engine session (.replayAllFailed .messaging eventType) := by
  intro agrees
  have reported := (replayAllFailed_pair session eventType).symm.trans agrees
  generalize (session.table .messaging).rows.filter (OutboxEvent.resettable eventType) = reset at reported
  have ids := congrArg ReplayResult.ids (Except.ok.inj reported)
  cases reset with
  | nil => cases ids
  | cons row others => cases ids

end operations

/-- With the pair for its rows, an operation decides rightly exactly when the table makes the
decision that a two-element array stands for. A tick and a bulk replay never do. -/
theorem agrees_iff (engine : Engine) (session : Session) (operation : Operation) :
    Agrees engine session operation ↔ operation.HoldsWhen session := by
  cases operation with
  | markSent service id lockVersion =>
    have decided := markSent_pair session service id lockVersion
    exact ⟨fun agrees => agrees.mp decided,fun holds => ⟨fun _ => holds,fun _ => decided⟩⟩
  | markFailedAttempt service claimed err =>
    have silent := markFailedAttempt_pair engine session service claimed err
    have never : ¬ (session.run (service.relay.markFailedAttempt engine claimed err :
        Program .pair Unit)).2.reports = session.reports + 1 := by omega
    exact (iff_false_left never).trans not_not
  | runRelayTick service instanceId batchSize outcome =>
    exact iff_false_intro (tick_disagrees engine session service instanceId batchSize outcome)
  | replayById service id =>
    cases service with
    | messaging =>
      have found : ¬ (session.run (OutboxAdminService.replayById id : Program .pair ReplayResult)).1 =
          .error (OutboxAdminService.notFound id) := by
        rw [replayById_pair]
        exact fun same => nomatch same
      exact (iff_false_left found).trans not_not
    | gateway => exact iff_true_left (gateway_replayById_pair session id)
  | replayAllFailed service eventType =>
    cases service with
    | messaging => exact iff_false_intro (replayAllFailed_disagrees engine session eventType)
    | gateway =>
      have reported := gateway_replayAllFailed_pair session eventType
      constructor
      · intro agrees
        exact (Except.ok.inj (reported.symm.trans agrees)).symm
      · intro two
        have agreed : (session.run (GatewayOutboxAdminService.replayAllFailed eventType :
            Program .pair Nat)).1 =
            .ok ((session.table .gateway).rows.filter (OutboxEvent.resettable eventType)).length := by
          rw [reported,two]
        exact agreed

/-- On empty tables the replay of an unknown id is reported as done. -/
theorem unknown_id_replayed : ¬ ∀ engine session operation, Agrees engine session operation := by
  intro agrees
  have replayed := (agrees ⟨fun _ => .nan,fun _ => ""⟩ ⟨fun _ => .empty,0,[],0⟩ (.replayById .gateway 7)).mp
    (gateway_replayById_pair _ 7)
  obtain ⟨row,member,_⟩ := replayed
  exact Table.not_mem_empty row member

end MessagingPlatform.Outbox

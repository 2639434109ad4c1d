import MessagingPlatform.Outbox.DriverContract

/-! The bulk replay of failed rows: which rows it resets, what it leaves of them, and what it leaves of
the others. -/
namespace MessagingPlatform.Outbox

variable {driver : Driver}

def replayAllFailed (driver : Driver) : Service → Option String → Program driver Unit
  | .messaging, eventType => (OutboxAdminService.replayAllFailed eventType).bind (fun _ => .resolve ())
  | .gateway, eventType => (GatewayOutboxAdminService.replayAllFailed eventType).bind (fun _ => .resolve ())

/-- A failed row of the type that the filter names; without a filter, any failed row. -/
def OutboxEvent.Requested (eventType : Option String) (row : OutboxEvent) : Prop :=
  row.status = .failed ∧ ∀ type, eventType = some type → row.eventType = type

/-- The row may be claimed anew, and is the same event under the same fencing token. -/
structure OutboxEvent.Reset (now : Int) (before after : OutboxEvent) : Prop where
  id : after.id = before.id
  claimable : after.due now = true
  attempts : after.attempts = 0
  unlocked : after.lockedAt = none ∧ after.lockedBy = none
  payload : after.payload = before.payload
  eventId : after.eventId = before.eventId
  correlationId : after.correlationId = before.correlationId
  eventType : after.eventType = before.eventType
  maxAttempts : after.maxAttempts = before.maxAttempts
  lockVersion : after.lockVersion = before.lockVersion

theorem OutboxEvent.reset_replayed (now : Int) (row : OutboxEvent) : row.Reset now (row.replayed now) where
  id := rfl
  claimable := by simp [OutboxEvent.due,OutboxEvent.replayed]
  attempts := rfl
  unlocked := ⟨rfl,rfl⟩
  payload := rfl
  eventId := rfl
  correlationId := rfl
  eventType := rfl
  maxAttempts := rfl
  lockVersion := rfl

/-- A replay changes the requested rows and nothing else, and a second one changes nothing. -/
structure ReplaysRequested (driver : Driver) (service : Service) (eventType : Option String)
    (session after : Session) : Prop where
  resolves : (session.run (replayAllFailed driver service eventType)).1 = .ok ()
  keys : (after.table service).keys = (session.table service).keys
  resets : ∀ row ∈ session.table service, row.Requested eventType →
    ∃ changed ∈ after.table service, row.Reset session.now changed
  keeps : ∀ row ∈ session.table service, ¬ row.Requested eventType → row ∈ after.table service
  others : ∀ other, other ≠ service → after.table other = session.table other
  again : ∀ now, ({ after with now } : Session).run (replayAllFailed driver service eventType) =
    (.ok (),{ after with now })

theorem OutboxEvent.replayed_id (now : Int) (row : OutboxEvent) : (row.replayed now).id = row.id := rfl

def replayUpdate (now : Int) (eventType : Option String) : Update OutboxEvent OutboxEvent.id where
  cond row := row.status == .failed && eventType.all (fun type => row.eventType == type)
  set row := row.replayed now
  keepsKey := OutboxEvent.replayed_id now

theorem replayUpdate_cond {now : Int} {eventType : Option String} {row : OutboxEvent} :
    (replayUpdate now (eventTypeFilter eventType)).cond row ↔
      row.status = .failed ∧ ∀ type, eventType = some type → type ≠ "" → row.eventType = type := by
  cases eventType with
  | none => simp [replayUpdate,eventTypeFilter]
  | some type =>
    by_cases blank : type = ""
    · simp [replayUpdate,eventTypeFilter,blank,Option.filter_some]
    · simp [replayUpdate,eventTypeFilter,blank,Option.filter_some]

theorem run_replayAllFailed (session : Session) (service : Service) (eventType : Option String) :
    session.run (replayAllFailed driver service eventType) = (.ok (),{ session with
      table := Function.update session.table service ((session.table service).apply
        (replayUpdate session.now (eventTypeFilter eventType))) }) := by
  cases service with
  | messaging =>
    unfold replayAllFailed OutboxAdminService.replayAllFailed
    simp only [Async.bind_eq]
    rw [Session.run_bind,Session.run_bind,Session.run_query session rfl]
    rfl
  | gateway =>
    unfold replayAllFailed GatewayOutboxAdminService.replayAllFailed
    simp only [Async.bind_eq]
    rw [Session.run_bind,Session.run_bind,Session.run_query session rfl]
    rfl

theorem replayAllFailed_table (session : Session) (service : Service) (eventType : Option String) :
    (session.run (replayAllFailed driver service eventType)).2.table service =
      (session.table service).apply (replayUpdate session.now (eventTypeFilter eventType)) := by
  rw [run_replayAllFailed]
  exact Function.update_self _ _ _

theorem replayUpdate_again {now later : Int} {eventType : Option String} (table : OutboxTable) :
    (table.apply (replayUpdate now eventType)).apply (replayUpdate later eventType) =
      table.apply (replayUpdate now eventType) := by
  apply Table.apply_eq_self
  intro row member matched
  obtain ⟨before,_,rfl⟩ := Table.mem_apply.mp member
  by_cases wrote : (replayUpdate now eventType).cond before
  · rw [Update.write_of wrote] at matched
    simp [replayUpdate,OutboxEvent.replayed] at matched
  · rw [Update.write_of_not wrote] at matched
    exact wrote matched

/-- An empty filter is no filter. -/
def FilterHeeded (eventType : Option String) (table : OutboxTable) : Prop :=
  eventType = some "" → ∀ row ∈ table, row.status = .failed → row.eventType = ""

theorem replayUpdate_requested {now : Int} {eventType : Option String} {table : OutboxTable}
    (heeded : FilterHeeded eventType table) {row : OutboxEvent} (member : row ∈ table) :
    (replayUpdate now (eventTypeFilter eventType)).cond row ↔ row.Requested eventType := by
  rw [replayUpdate_cond]
  constructor
  · rintro ⟨failed,selected⟩
    refine ⟨failed,?_⟩
    intro type given
    by_cases blank : type = ""
    · subst blank
      exact heeded given row member failed
    · exact selected type given blank
  · rintro ⟨failed,selected⟩
    exact ⟨failed,fun type given _ => selected type given⟩

theorem ReplaysRequested.heeded {service : Service} {eventType : Option String} {session : Session}
    (replays : ReplaysRequested driver service eventType session
      (session.run (replayAllFailed driver service eventType)).2) :
    FilterHeeded eventType (session.table service) := by
  rintro rfl row member failed
  by_contra typed
  have kept := replays.keeps row member (fun requested => typed (requested.2 "" rfl))
  rw [replayAllFailed_table] at kept
  obtain ⟨before,present,same⟩ := Table.mem_apply.mp kept
  obtain rfl : before = row := Table.eq_of_key present member
    ((congrArg OutboxEvent.id same).trans (Update.key_write _ before)).symm
  have matched : (replayUpdate session.now (eventTypeFilter (some ""))).cond before := replayUpdate_cond.mpr
    ⟨failed,fun type given some => absurd (Option.some.inj given).symm some⟩
  rw [Update.write_of matched] at same
  have pending := congrArg OutboxEvent.status same
  rw [failed] at pending
  cases pending

/-- A replay does what its filter asks for exactly when the filter is not the empty text, or no failed row
is of another type than the empty one. -/
theorem replays_requested_iff (driver : Driver) (service : Service) (eventType : Option String)
    (session : Session) :
    ReplaysRequested driver service eventType session
      (session.run (replayAllFailed driver service eventType)).2 ↔
    FilterHeeded eventType (session.table service) := by
  refine ⟨ReplaysRequested.heeded,?_⟩
  intro heeded
  refine ⟨by rw [run_replayAllFailed],?_,?_,?_,?_,?_⟩
  · rw [replayAllFailed_table]
    exact Table.keys_apply _ _
  · intro row member requested
    have matched : (replayUpdate session.now (eventTypeFilter eventType)).cond row :=
      (replayUpdate_requested heeded member).mpr requested
    refine ⟨row.replayed session.now,?_,row.reset_replayed session.now⟩
    rw [replayAllFailed_table]
    exact Table.mem_apply.mpr ⟨row,member,(Update.write_of matched).symm⟩
  · intro row member unasked
    have unmatched : ¬ (replayUpdate session.now (eventTypeFilter eventType)).cond row :=
      mt (replayUpdate_requested heeded member).mp unasked
    rw [replayAllFailed_table]
    exact Table.mem_apply.mpr ⟨row,member,(Update.write_of_not unmatched).symm⟩
  · intro other differs
    rw [run_replayAllFailed]
    exact Function.update_of_ne differs _ _
  · intro now
    rw [run_replayAllFailed,run_replayAllFailed]
    dsimp only
    rw [Function.update_self,replayUpdate_again,Function.update_idem]

def sampleFailed : OutboxEvent :=
  { id := 1, eventType := "MessagePersisted", payload := .null, correlationId := none, status := .failed,
    attempts := 5, lastError := none, sentAt := none, lockedAt := none, lockedBy := none, nextRetryAt := 0,
    maxAttempts := 5, eventId := none, lockVersion := 1, traceContext := none }

def failedSession : Session where
  table _ := ⟨[sampleFailed],by decide⟩
  now := 7
  scan := []
  reports := 0

/-- A filter that no row is of resets the one failed row there is. -/
theorem empty_filter_replays : ¬ ReplaysRequested Driver.pair .messaging (some "") failedSession
    (failedSession.run (replayAllFailed Driver.pair .messaging (some ""))).2 := by
  intro replays
  have heeded := replays.heeded rfl sampleFailed (List.mem_singleton.mpr rfl) rfl
  exact absurd heeded (by decide)

end MessagingPlatform.Outbox

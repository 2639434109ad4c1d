import MessagingPlatform.Contracts.Backoff
import MessagingPlatform.Outbox.Absorbing
import MessagingPlatform.Outbox.Orphans

/-! The recorded failures of the outbox rows. A program records a failure only for a row of its own
batch, with the number of attempts that it claimed the row with, and a row keeps that number for as
long as it carries the version of the claim. So the attempts of a row are the failures recorded
since it was inserted or last replayed. -/
namespace MessagingPlatform.Outbox
open Driver

def budgeted : RelayEvent → Bool
  | .external (.insert _ recorded _) => decide (1 ≤ recorded.maxAttempts)
  | _ => true

def Budgeted (_ : State) (event : RelayEvent) : Prop := budgeted event = true

instance (state : State) (event : RelayEvent) : Decidable (Budgeted state event) :=
  inferInstanceAs (Decidable (_ = true))

/-- The last reading of the clock of every process, and the times of the failures recorded for every
row since its insert or last replay. -/
structure Journal where
  read : Nat → Int
  failures : Service → Nat → List Int

def Journal.blank : Journal := ⟨fun _ => 0,fun _ _ => []⟩

def Statement.journaled (time : Int) (failures : List Int) : Statement → List Int
  | .markFailed _ _ _ _ _ _ => failures ++ [time]
  | .replayOne _ | .replayFailed _ => []
  | .claim _ _ | .markSent _ _ | .reap _ => failures

def Journal.note (journal : Journal) (state : State) : Effect Request Choice External Task → Journal
  | .performs pid .newDate choice => ⟨Function.update journal.read pid choice.instant,journal.failures⟩
  | .performs pid (.query service statement) choice => ⟨journal.read,fun other id =>
      if other = service ∧ state.touches service statement choice.scan id = true then
        statement.journaled (journal.read pid) (journal.failures other id)
      else journal.failures other id⟩
  | .external (.insert service recorded _) => ⟨journal.read,fun other id =>
      if other = service ∧ id = recorded.id then [] else journal.failures other id⟩
  | _ => journal

def journaledWorld (driver : Driver) (settings : Settings) :
    World (State × Journal) Thrown Request (Reply driver) Choice External Task :=
  (relayWorld driver settings).withGhost Journal.note

/-! What every program of the system knows about the failures that it records. -/

structure Trying where
  tries : List (Service × ClaimedRow)
  read : Option Int

namespace Trying

def start : Trying := ⟨[],none⟩

def drop (view : Trying) (token : Token) : Trying :=
  { view with tries := view.tries.filter (fun entry => entry.2.token entry.1 != token) }

theorem mem_drop {view : Trying} {token : Token} {entry : Service × ClaimedRow} :
    entry ∈ (view.drop token).tries ↔ entry ∈ view.tries ∧ entry.2.token entry.1 ≠ token := by
  simp [drop]

def Keeps (before : Trying) (token : Token) (after : Trying) : Prop :=
  ∀ entry ∈ before.tries, entry.2.token entry.1 ≠ token → entry ∈ after.tries

theorem Keeps.refl (view : Trying) (token : Token) : view.Keeps token view := fun _ member _ => member

end Trying

/-- The status and the date of a failure follow from the row as it was claimed and from the last
reading of the clock. -/
structure Fails (engine : Engine) (view : Trying) (row : ClaimedRow) (status : OutboxStatus)
    (attempts : Int) (nextRetryAt : Option Int) : Prop where
  counted : attempts = row.attempts + 1
  exhausted : row.maxAttempts ≤ attempts → status = .failed
  retried : attempts < row.maxAttempts → status = .pending ∧ ∃ read, view.read = some read ∧
    nextRetryAt = addMs read (retryDelayMs engine (.finite attempts))

def recording (engine : Engine) : Protocol Trying Thrown Request (Reply returningRows) where
  allows view
    | .query service (.markFailed status attempts _ nextRetryAt id version) => ∃ row,
        (service,row) ∈ view.tries ∧ row.token service = ⟨service,id,version⟩ ∧
        Fails engine view row status attempts nextRetryAt
    | _ => True
  moves before request outcome after := match request, outcome with
    | .newDate, .ok instant => after = { before with read := some instant }
    | .query service (.claim _ _), .ok rows =>
        after = { before with tries := List.map (fun row : ClaimedRow => (service,row)) rows } ∧
          (List.map ClaimedRow.id rows).Nodup
    | .query service (.markFailed _ _ _ _ id version), _ => after = before.drop ⟨service,id,version⟩
    | _, _ => after = before

/-- Requests that no program of the system reads the clock, claims or records a failure with. -/
def Request.unrecorded : Request → Bool
  | .query _ (.claim _ _) | .query _ (.markFailed _ _ _ _ _ _) | .newDate => false
  | _ => true

section programs
variable {engine : Engine}

theorem still_request {request : Request} (unrecorded : request.unrecorded = true) (view : Trying) :
    (recording engine).Still (Outbox.request request) view := by
  cases request with
  | query service statement =>
    cases statement with
    | claim _ _ | markFailed _ _ _ _ _ _ => cases unrecorded
    | markSent _ _ | reap _ | replayOne _ | replayFailed _ =>
      exact Protocol.Follows.call trivial (fun outcome after moved => by cases outcome <;> exact moved)
  | newDate => cases unrecorded
  | getChannel _ | inject _ | publish _ _ | waitForConfirms _ | fencedPublish _ | declare _ =>
    exact Protocol.Follows.call trivial (fun outcome after moved => by cases outcome <;> exact moved)

theorem newDate_recorded (view : Trying) :
    (recording engine).Follows (Outbox.request .newDate) view (fun after outcome =>
      after.tries = view.tries ∧ ∀ now, outcome = .ok now → after.read = some now) := by
  refine Protocol.Follows.call trivial ?_
  intro outcome after moved
  cases outcome with
  | ok now =>
    have same : after = { view with read := some now } := moved
    subst same
    exact ⟨rfl,fun _ equal => congrArg some (Except.ok.inj equal)⟩
  | error error =>
    have same : after = view := moved
    subst same
    exact ⟨rfl,fun _ impossible => by cases impossible⟩

namespace RelayService

variable (relay : RelayService)

theorem newStatusAndRetryAt_recorded {row : ClaimedRow} {now : Int} {view : Trying} (read : view.read = some now) :
    (recording engine).Follows
      (newStatusAndRetryAt (computeFailureOutcome engine row.attempts row.maxAttempts now)) view
      (fun after outcome => after.tries = view.tries ∧ ∀ next, outcome = .ok next →
        Fails engine after row next.1
          (computeFailureOutcome engine row.attempts row.maxAttempts now).newAttempts next.2) := by
  by_cases spent : row.attempts + 1 ≥ row.maxAttempts
  · rw [computeFailureOutcome_spent spent]
    refine (newDate_recorded view).bind ?_ ?_
    · intro after instant learned
      refine ⟨learned.1,?_⟩
      intro next same
      obtain rfl := Except.ok.inj same
      exact ⟨rfl,fun _ => rfl,fun within => absurd within (by simp [FailureOutcome.newAttempts]; omega)⟩
    · intro after error learned
      exact ⟨learned.1,fun _ impossible => by cases impossible⟩
  · rw [computeFailureOutcome_left spent]
    refine ⟨rfl,?_⟩
    intro next same
    obtain rfl := Except.ok.inj same
    exact ⟨rfl,fun most => absurd most spent,fun _ => ⟨rfl,now,read,rfl⟩⟩

theorem markFailedAttempt_recorded (row : ClaimedRow) (err : Thrown) {view : Trying}
    (mine : (relay.service,row) ∈ view.tries) :
    (recording engine).Follows (relay.markFailedAttempt engine row err) view
      (fun after _ => view.Keeps (row.token relay.service) after) := by
  unfold markFailedAttempt
  simp only [Async.bind_eq]
  refine (newDate_recorded view).bind ?_ (fun _ _ learned _ member _ => learned.1 ▸ member)
  intro after now learned
  obtain ⟨tries,read⟩ := learned
  refine (newStatusAndRetryAt_recorded (read now rfl)).bind ?_
    (fun _ _ learned _ member _ => learned.1 ▸ tries ▸ member)
  intro later next learned
  obtain ⟨same,fails⟩ := learned
  have kept : later.tries = view.tries := same.trans tries
  have written : (recording engine).Follows (query relay.service (.markFailed next.1
      (computeFailureOutcome engine row.attempts row.maxAttempts now).newAttempts err.message next.2
      row.id row.lockVersion)) later (fun last _ => view.Keeps (row.token relay.service) last) := by
    refine Protocol.Follows.call ⟨row,kept ▸ mine,rfl,fails next rfl⟩ ?_
    intro outcome last moved
    have dropped : last = later.drop (row.token relay.service) := by cases outcome <;> exact moved
    subst dropped
    intro entry member other
    exact Trying.mem_drop.mpr ⟨kept ▸ member,other⟩
  refine written.bind ?_ (fun _ _ keeps => keeps)
  intro last result keeps
  by_cases owned : result.length > 0
  · rw [if_pos owned]
    exact keeps
  · rw [if_neg owned]
    refine (still_request rfl last).mono ?_
    intro final outcome unchanged
    exact unchanged ▸ keeps

theorem publishOne_recorded (row : ClaimedRow) {view : Trying} (mine : (relay.service,row) ∈ view.tries) :
    (recording engine).Follows (relay.publishOne engine row) view
      (fun after _ => view.Keeps (row.token relay.service) after) := by
  unfold publishOne
  refine Protocol.Follows.tryCatch (M := fun after _ => after = view) ?_ ?_ ?_
  · refine (still_request rfl view).bind ?_
    intro channel
    refine (still_request rfl view).bind ?_
    intro carrier
    refine (still_request rfl view).bind ?_
    intro published
    cases published with
    | false => exact rfl
    | true =>
      refine (still_request rfl view).bind ?_
      intro confirmed
      refine Protocol.Still.bind (Protocol.Still.bind (still_request rfl view) ?_) ?_
      · intro result
        exact rfl
      · intro stillOwned
        cases stillOwned with
        | true => exact rfl
        | false => exact still_request rfl view
  · intro after value same
    exact same ▸ .refl view _
  · intro after error same
    have here : after = view := same
    subst here
    exact relay.markFailedAttempt_recorded row error mine

theorem published_recorded (rows : List ClaimedRow) {view : Trying} (distinct : (rows.map ClaimedRow.id).Nodup)
    (mine : ∀ row ∈ rows, (relay.service,row) ∈ view.tries) :
    (recording engine).Follows (rows.forM (relay.publishOne engine)) view (fun _ _ => True) := by
  induction rows generalizing view with
  | nil => trivial
  | cons row rest ih =>
    obtain ⟨new,distinct⟩ := List.nodup_cons.mp distinct
    refine (relay.publishOne_recorded row (mine row List.mem_cons_self)).bind ?_ (fun _ _ _ => trivial)
    intro after _ keeps
    refine ih distinct ?_
    intro other member
    refine keeps _ (mine other (List.mem_cons_of_mem _ member)) ?_
    intro same
    have same_id : other.id = row.id := congrArg Token.id same
    exact new (same_id ▸ List.mem_map_of_mem member)

def Taken (after : Trying) (outcome : Except Thrown (Option (List ClaimedRow))) : Prop :=
  ∀ rows, outcome = .ok (some rows) →
    (List.map ClaimedRow.id rows).Nodup ∧ ∀ row ∈ rows, (relay.service,row) ∈ after.tries

theorem runRelayTick_recorded (instanceId : String) (batchSize : Nat) (view : Trying) :
    (recording engine).Follows (relay.runRelayTick (relay.publishOne engine) instanceId batchSize) view
      (fun _ _ => True) := by
  unfold runRelayTick relayTick
  simp only [Async.bind_eq]
  have claimed : (recording engine).Follows (relay.claimBatch instanceId batchSize) view
      (fun after outcome => ∀ rows, outcome = .ok rows →
        (List.map ClaimedRow.id rows).Nodup ∧ ∀ row ∈ rows, (relay.service,row) ∈ after.tries) := by
    refine Protocol.Follows.call trivial ?_
    intro outcome after moved
    cases outcome with
    | ok rows =>
      obtain ⟨rfl,distinct⟩ := moved
      intro same equal
      obtain rfl := Except.ok.inj equal
      exact ⟨distinct,fun row member => List.mem_map_of_mem member⟩
    | error error => exact fun _ impossible => by cases impossible
  have batch : (recording engine).Follows
      ((relay.claimBatch instanceId batchSize).bind (fun rows => .resolve (some rows))) view relay.Taken := by
    refine claimed.bind ?_ ?_
    · intro after rows learned same equal
      obtain rfl := Option.some.inj (Except.ok.inj equal)
      exact learned rows rfl
    · intro after error learned _ impossible
      cases impossible
  refine Protocol.Follows.bind (M := relay.Taken) (batch.tryCatch (fun _ _ learned => learned) ?_) ?_
    (fun _ _ _ => trivial)
  · intro after error learned _ impossible
    cases impossible
  · intro after claim learned
    cases claim with
    | none => exact trivial
    | some rows =>
      obtain ⟨distinct,mine⟩ := learned rows rfl
      by_cases nothing : rows.length = 0
      · simp only [nothing,if_true]
        exact trivial
      · simp only [nothing,if_false]
        exact relay.published_recorded rows distinct mine

end RelayService

end programs

theorem still_query {engine : Engine} {service : Service} {statement : Statement} {Value : Type} {view : Trying}
    {report : List statement.Row → Program returningRows Value}
    (unrecorded : (Request.query service statement).unrecorded = true)
    (reported : ∀ rows, (recording engine).Still (report rows) view) :
    (recording engine).Follows (((query service statement).bind report).bind (fun _ => .resolve ())) view
      (fun _ _ => True) := by
  have still : (recording engine).Still (((query service statement).bind report).bind (fun _ => .resolve ())) view :=
    Protocol.Still.bind ((still_request unrecorded view).bind reported) (fun _ => rfl)
  exact still.mono (fun _ _ _ => trivial)

theorem Task.program_recorded (settings : Settings) (task : Task) :
    (recording settings.engine).Follows (task.program settings) .start (fun _ _ => True) := by
  cases task with
  | runRelayTick service instanceId batchSize =>
    exact service.relay.runRelayTick_recorded instanceId batchSize .start
  | reapStaleLocks service =>
    have still : (recording settings.engine).Still
        (service.relay.reapStaleLocks (settings.lockTtlMs service)) .start := by
      apply Protocol.Still.tryCatch ((still_request rfl .start).bind ?_)
      · intro error
        exact rfl
      · intro rows
        exact rfl
    exact still.mono (fun _ _ _ => trivial)
  | replayById service id =>
    cases service with
    | messaging =>
      refine still_query rfl ?_
      intro rows
      split <;> exact rfl
    | gateway => exact still_query rfl (fun _ => rfl)
  | replayAllFailed service eventType =>
    cases service with
    | messaging => exact still_query rfl (fun _ => rfl)
    | gateway => exact still_query rfl (fun _ => rfl)
  | assertTopology =>
    have still : (recording settings.engine).Still TopologyService.assertTopology .start :=
      Protocol.Still.forM (fun _ => still_request rfl .start)
    exact still.mono (fun _ _ _ => trivial)

end MessagingPlatform.Outbox

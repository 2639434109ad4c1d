import MessagingPlatform.Lib.Ghost
import MessagingPlatform.Lib.Matching
import MessagingPlatform.Outbox.Confirmed
import MessagingPlatform.Outbox.Fencing
import MessagingPlatform.Outbox.Reaped
import MessagingPlatform.Outbox.Requests

/-! Every message on the wire has a claim of its own. A relay publishes a row of its batch once at most,
and every claim of a row has its own version, so `lock_version` bounds how often a row is published. -/
namespace MessagingPlatform.Outbox
open Driver

def State.versions (state : State) (service : Service) (id : Nat) : List Int :=
  (state.history.claims.filter (fun claim => claim.1.service == service && claim.1.id == id)).map
    (fun claim => claim.1.version)

def Counted (state : State) : Prop := ∀ service, ∀ row ∈ state.table service, ∃ count : Nat,
  row.lockVersion = count ∧
    state.versions service row.id = (List.range count).map (fun earlier : Nat => (earlier : Int) + 1)

section counting
variable {state after : State} {pid : Nat} {service : Service} {statement : Statement}
  {update : Update OutboxEvent OutboxEvent.id} {scan : List Nat}

theorem Counted.initial (now : Int) (broker : Amqp.Topology) :
    Counted (.initial now (fun _ => Table.empty) broker) :=
  fun _ _ member => (Table.not_mem_empty _ member).elim

theorem Counted.congr (counted : Counted state) (table : after.table = state.table)
    (claims : after.history.claims = state.history.claims) : Counted after := by
  unfold Counted State.versions
  rw [table,claims]
  exact counted

theorem versions_execute (other : Service) (id : Nat) :
    (state.execute pid service statement update).versions other id = state.versions other id ++
      match statement with
      | .claim _ _ => if service = other then
          (((state.table service).returning update).filter (fun row => row.id == id)).map OutboxEvent.lockVersion
        else []
      | _ => [] := by
  unfold State.versions
  rw [execute_claims,List.filter_append,List.map_append]
  cases statement with
  | claim lockedBy limit =>
    refine congrArg _ ?_
    dsimp only
    rw [List.filter_map,List.map_map]
    by_cases here : service = other
    · subst here
      rw [if_pos rfl]
      refine congrArg (List.map OutboxEvent.lockVersion) (List.filter_congr (fun row _ => ?_))
      simp [OutboxEvent.token]
    · rw [if_neg here,List.map_eq_nil_iff,List.filter_eq_nil_iff]
      intro row _
      simp [OutboxEvent.token,here]
  | markSent _ _ | markFailed _ _ _ _ _ _ | reap _ | replayOne _ | replayFailed _ => rfl

theorem Counted.execute (counted : Counted state)
    (means : statement.update (state.table service) state.now scan = some update) :
    Counted (state.execute pid service statement update) := by
  intro other row member
  rw [State.mem_execute] at member
  by_cases here : other = service
  · subst here
    rw [if_pos rfl] at member
    obtain ⟨before,present,rfl⟩ := member
    obtain ⟨count,version,versions⟩ := counted other before present
    have key : (update.write before).id = before.id := update.key_write before
    rw [key,versions_execute,versions]
    by_cases matched : update.cond before
    · obtain ⟨_,claimed | same⟩ := (Statement.write_cases means present matched).version
      · obtain ⟨lockedBy,limit,rfl,next⟩ := claimed
        refine ⟨count + 1,?_,?_⟩
        · rw [Update.write_of matched,next,version]
          exact (Nat.cast_succ count).symm
        · dsimp only
          rw [if_pos rfl,Table.returning_key present,if_pos matched,List.range_succ,List.map_append]
          simp [next,version]
      · refine ⟨count,?_,?_⟩
        · rw [Update.write_of matched]
          exact same.trans version
        · cases statement with
          | claim lockedBy limit =>
            have writes := Statement.write_cases means present matched
            generalize update.set before = written at writes same
            cases writes with
            | claim due => exact absurd same (by simp)
          | markSent _ _ | markFailed _ _ _ _ _ _ | reap _ | replayOne _ | replayFailed _ =>
            exact List.append_nil _
    · refine ⟨count,?_,?_⟩
      · rw [Update.write_of_not matched]
        exact version
      · cases statement with
        | claim lockedBy limit =>
          dsimp only
          rw [if_pos rfl,Table.returning_key present,if_neg matched]
          exact List.append_nil _
        | markSent _ _ | markFailed _ _ _ _ _ _ | reap _ | replayOne _ | replayFailed _ =>
          exact List.append_nil _
  · rw [if_neg here] at member
    obtain ⟨count,version,versions⟩ := counted other row member
    refine ⟨count,version,?_⟩
    rw [versions_execute,versions]
    cases statement with
    | claim lockedBy limit =>
      dsimp only
      rw [if_neg (Ne.symm here)]
      exact List.append_nil _
    | markSent _ _ | markFailed _ _ _ _ _ _ | reap _ | replayOne _ | replayFailed _ => exact List.append_nil _

theorem Counted.serve {request : Request} {choice : Choice} {reply : Except Thrown (Reply returningRows request)}
    (counted : Counted state) (served : state.serve pid request choice = some (reply,after)) : Counted after := by
  rcases State.serve_cases served with ⟨service,statement,update,rfl,means,rfl⟩ | ⟨_,table,history⟩
  · exact counted.execute means
  · exact counted.congr table (congrArg History.claims history)

theorem Counted.external {event : External} (counted : Counted state) (fenced : Fenced state)
    (happened : state.external event = some after) : Counted after := by
  cases event with
  | elapse ms =>
    obtain rfl := Option.some.inj happened
    exact counted.congr rfl rfl
  | insert service recorded nextRetryAt =>
    obtain ⟨fresh,rfl⟩ := State.external_insert happened
    intro other row member
    rcases (State.mem_insert fresh).mp member with old | ⟨rfl,rfl⟩
    · exact counted other row old
    · refine ⟨0,rfl,?_⟩
      rw [State.versions,List.range_zero,List.map_nil,List.map_eq_nil_iff,List.filter_eq_nil_iff]
      intro claim claimed same
      obtain ⟨there,named⟩ := Bool.and_eq_true_iff.mp same
      have present := fenced.present claim claimed
      rw [eq_of_beq there,eq_of_beq named] at present
      exact fresh present
  | route index =>
    obtain ⟨_,_,_,rfl⟩ := State.settlePublish_eq happened
    exact counted.congr rfl rfl
  | reject index =>
    obtain ⟨_,_,_,rfl⟩ := State.settlePublish_eq happened
    exact counted.congr rfl rfl

end counting

def MadeFor (publication : Publication) (entry : Service × ClaimedRow) : Prop :=
  ∃ carrier, publication = entry.1.relay.publication entry.2 carrier

open Classical in
noncomputable def isFor (publication : Publication) (entry : Service × ClaimedRow) : Bool :=
  decide (MadeFor publication entry)

theorem isFor_iff {publication : Publication} {entry : Service × ClaimedRow} :
    isFor publication entry = true ↔ MadeFor publication entry := by
  classical
  exact decide_eq_true_iff

noncomputable def withoutOne (publication : Publication) (unpublished : List (Service × ClaimedRow)) :
    List (Service × ClaimedRow) := unpublished.eraseP (isFor publication)

theorem withoutOne_cases {publication : Publication} {unpublished : List (Service × ClaimedRow)}
    (some : ∃ entry ∈ unpublished, MadeFor publication entry) : ∃ entry before after, MadeFor publication entry ∧
      unpublished = before ++ entry :: after ∧ withoutOne publication unpublished = before ++ after := by
  obtain ⟨entry,member,made⟩ := some
  obtain ⟨first,before,after,_,made,same,erased⟩ := List.exists_of_eraseP member (isFor_iff.mpr made)
  exact ⟨first,before,after,isFor_iff.mp made,same,erased⟩

theorem sublist_withoutOne {publication : Publication} {entry : Service × ClaimedRow}
    {rest unpublished : List (Service × ClaimedRow)} (left : (entry :: rest).Sublist unpublished)
    (made : MadeFor publication entry) : rest.Sublist (withoutOne publication unpublished) := by
  have erased := left.eraseP (p := isFor publication)
  rwa [List.eraseP_cons_of_pos (isFor_iff.mpr made)] at erased

theorem withoutOne_sublist (publication : Publication) (unpublished : List (Service × ClaimedRow)) :
    (withoutOne publication unpublished).Sublist unpublished := List.eraseP_sublist

/-- A relay publishes rows of its batch, each of them once at most. The view holds the rows that it has
not published. -/
def spending : Protocol (List (Service × ClaimedRow)) Thrown Request (Reply returningRows) where
  allows unpublished
    | .publish _ publication => ∃ entry ∈ unpublished, MadeFor publication entry
    | _ => True
  moves unpublished request outcome after := match request, outcome with
    | .query service (.claim _ _), .ok rows => after = List.map (fun row : ClaimedRow => (service,row)) rows
    | .publish _ publication, _ => after = withoutOne publication unpublished
    | _, _ => after = unpublished

def Request.silent : Request → Prop
  | .query _ (.claim _ _) | .publish _ _ => False
  | _ => True

section programs
variable {A : Type} {unpublished rest : List (Service × ClaimedRow)}

theorem spending_still {program : Program returningRows A} {named : Request → Prop} (asks : program.Asks named)
    (silent : ∀ request, named request → request.silent) : spending.Still program unpublished := by
  refine asks.still ?_ ?_
  · intro request asked
    cases request with
    | publish channel publication => exact (silent _ asked).elim
    | query _ _ | getChannel _ | inject _ | waitForConfirms _ | newDate | fencedPublish _ | declare _ => trivial
  · intro request outcome after asked moved
    cases request with
    | publish channel publication => exact (silent _ asked).elim
    | query service statement =>
      cases statement with
      | claim _ _ => exact (silent _ asked).elim
      | markSent _ _ | markFailed _ _ _ _ _ _ | reap _ | replayOne _ | replayFailed _ => exact moved
    | getChannel _ | inject _ | waitForConfirms _ | newDate | fencedPublish _ | declare _ => exact moved

theorem Request.silent_of {request : Request}
    (named : request.bookkeeps ∨ request.reaps ∨ request.replays ∨ request.declares) : request.silent := by
  cases request with
  | publish channel publication => rcases named with named | named | named | named <;> exact named
  | query service statement =>
    cases statement with
    | claim lockedBy limit => rcases named with named | named | named | named <;> exact named
    | markSent _ _ | markFailed _ _ _ _ _ _ | reap _ | replayOne _ | replayFailed _ => trivial
  | getChannel _ | inject _ | waitForConfirms _ | newDate | fencedPublish _ | declare _ => trivial

theorem silent_then {asked : Request} (silent : asked.silent) {f : Reply returningRows asked → Program returningRows A}
    {post : List (Service × ClaimedRow) → Except Thrown A → Prop}
    (resolved : ∀ reply, spending.Follows (f reply) unpublished post)
    (rejected : ∀ error, post unpublished (.error error)) : spending.Follows ((request asked).bind f) unpublished post :=
  (spending_still (Async.Asks.call silent) (fun _ => id)).before resolved rejected

theorem silent_last {asked : Request} (silent : asked.silent) : spending.Still (request asked) unpublished :=
  spending_still (Async.Asks.call silent) (fun _ => id)

namespace RelayService

variable (engine : Engine)

/-- Whether or not the row is published, what comes after it in the batch is still there. -/
theorem publishOne_spends {service : Service} (row : ClaimedRow)
    (left : ((service,row) :: rest).Sublist unpublished) :
    spending.Follows (service.relay.publishOne engine row) unpublished (fun after _ => rest.Sublist after) := by
  have bookkeeps : ∀ after err, spending.Still (service.relay.markFailedAttempt engine row err) after :=
    fun after err => spending_still (service.relay.markFailedAttempt_asks engine row err)
      (fun _ asked => Request.silent_of (.inl asked))
  have kept : rest.Sublist unpublished := (List.sublist_cons_self _ _).trans left
  unfold publishOne
  simp only [Async.bind_eq]
  refine @Protocol.Follows.tryCatch _ _ _ _ _ _ _ _ _ (fun after _ => rest.Sublist after) _ ?_ (fun _ _ still => still) ?_
  · refine silent_then (by trivial) ?_ (fun _ => kept)
    intro channel
    refine silent_then (by trivial) ?_ (fun _ => kept)
    intro carrier
    have publishes : spending.Follows (request (.publish channel (service.relay.publication row carrier))) unpublished
        (fun after _ => rest.Sublist after) := by
      refine Protocol.Follows.call ⟨(service,row),left.subset List.mem_cons_self,carrier,rfl⟩ ?_
      intro outcome after moved
      have erased : after = withoutOne (service.relay.publication row carrier) unpublished := by
        cases outcome <;> exact moved
      exact erased ▸ sublist_withoutOne left ⟨carrier,rfl⟩
    refine publishes.bind ?_ (fun _ _ still => still)
    intro after published still
    cases published with
    | false => exact still
    | true =>
      refine silent_then (by trivial) ?_ (fun _ => still)
      intro confirmed
      have marks : spending.Still (service.relay.markSent row.id row.lockVersion : Program returningRows Bool) after :=
        silent_then (by trivial) (fun _ => rfl) (fun _ => rfl)
      refine marks.before ?_ (fun _ => still)
      intro stillOwned
      cases stillOwned with
      | true => exact still
      | false =>
        have reports : spending.Still (request (.fencedPublish service.relay.service)) after := silent_last trivial
        exact reports.mono (fun _ _ same => same ▸ still)
  · intro after err still
    exact (bookkeeps after err).mono (fun _ _ same => same ▸ still)

def Took (service : Service) (after : List (Service × ClaimedRow)) (outcome : Except Thrown (Option (List ClaimedRow))) :
    Prop := ∀ rows, outcome = .ok (some rows) → after = rows.map (fun row => (service,row))

theorem runRelayTick_spends (service : Service) (instanceId : String) (batchSize : Nat) :
    spending.Follows (service.relay.runRelayTick (service.relay.publishOne engine) instanceId batchSize) unpublished
      (fun _ _ => True) := by
  unfold runRelayTick relayTick
  simp only [Async.bind_eq]
  have claims : spending.Follows (service.relay.claimBatch instanceId batchSize : Program returningRows (List ClaimedRow))
      unpublished (fun after outcome => ∀ rows, outcome = .ok rows →
        after = rows.map (fun row : ClaimedRow => (service,row))) := by
    refine Protocol.Follows.call trivial ?_
    intro outcome after moved
    cases outcome with
    | ok rows =>
      intro same equal
      obtain rfl := Except.ok.inj equal
      rw [Service.relay_service] at moved
      exact moved
    | error error => exact fun _ impossible => by cases impossible
  have resolved : spending.Follows ((service.relay.claimBatch instanceId batchSize).bind
      (fun rows => .resolve (some rows)) : Program returningRows (Option (List ClaimedRow))) unpublished (Took service) := by
    refine claims.bind ?_ ?_
    · intro after rows learned same equal
      obtain rfl := Option.some.inj (Except.ok.inj equal)
      exact learned rows rfl
    · intro after error _ rows impossible
      cases impossible
  have batch : spending.Follows (Async.tryCatch ((service.relay.claimBatch instanceId batchSize).bind
      (fun rows => .resolve (some rows))) (fun _ => .resolve none) : Program returningRows (Option (List ClaimedRow)))
      unpublished (Took service) := by
    refine resolved.tryCatch (fun _ _ learned => learned) ?_
    intro after error _ rows impossible
    cases impossible
  refine batch.bind ?_ (fun _ _ _ => trivial)
  intro after rows learned
  cases rows with
  | none => trivial
  | some rows =>
    dsimp only
    split
    · trivial
    · have left : (rows.map (fun row : ClaimedRow => (service,row))).Sublist after := by
        rw [learned rows rfl]
      refine (Protocol.Follows.forM (I := fun rest after => (rest.map (fun row : ClaimedRow => (service,row))).Sublist after)
        (F := fun _ _ => True) left ?_).mono (fun _ _ _ => trivial)
      intro row rest view left
      refine (publishOne_spends engine row left).mono ?_
      intro later outcome still
      cases outcome with
      | ok _ => exact still
      | error _ => trivial

end RelayService

theorem Task.program_spends (settings : Settings) (task : Task) :
    spending.Follows (task.program settings) unpublished (fun _ _ => True) := by
  cases task with
  | runRelayTick service instanceId batchSize =>
    exact RelayService.runRelayTick_spends settings.engine service instanceId batchSize
  | reapStaleLocks service =>
    exact (spending_still (service.relay.reapStaleLocks_asks _)
      (fun _ asked => Request.silent_of (.inr (.inl asked)))).mono (fun _ _ _ => trivial)
  | replayById service id =>
    exact (spending_still (Task.replayById_asks settings service id)
      (fun _ asked => Request.silent_of (.inr (.inr (.inl asked))))).mono (fun _ _ _ => trivial)
  | replayAllFailed service eventType =>
    exact (spending_still (Task.replayAllFailed_asks settings service eventType)
      (fun _ asked => Request.silent_of (.inr (.inr (.inl asked))))).mono (fun _ _ _ => trivial)
  | assertTopology =>
    exact (spending_still (Task.assertTopology_asks settings)
      (fun _ asked => Request.silent_of (.inr (.inr (.inr asked))))).mono (fun _ _ _ => trivial)

end programs

abbrev PublishLog := List (Nat × Publication)

def PublishLog.note (log : PublishLog) (_ : State) : Effect Request Choice External Task → PublishLog
  | .performs pid (.publish _ publication) _ => log ++ [(pid,publication)]
  | _ => log

def loggedWorld (driver : Driver) (settings : Settings) :
    World (State × PublishLog) Thrown Request (Reply driver) Choice External Task :=
  (relayWorld driver settings).withGhost PublishLog.note

def ClaimedRow.Of (claimed : ClaimedRow) (recorded : Recorded) : Prop :=
  claimed.id = recorded.id ∧ claimed.eventType = recorded.eventType ∧ claimed.payload = recorded.payload ∧
    claimed.correlationId = recorded.correlationId ∧ claimed.eventId = recorded.eventId ∧
    claimed.traceContext = recorded.traceContext

def State.Claimed (state : State) (pid : Nat) (entry : Service × ClaimedRow) : Prop :=
  (entry.2.token entry.1,pid) ∈ state.history.claims ∧
    ∃ recorded, (entry.1,recorded) ∈ state.history.recorded ∧ entry.2.Of recorded

def Known (state : State) : Prop := ∀ service, ∀ row ∈ state.table service,
  (service,row.recorded) ∈ state.history.recorded

/-- What a process has published are rows that it had claimed, each of them under a token of its own, and the rows
that it may still publish are further ones. -/
structure Spent (pid : Nat) (state : State × PublishLog) (published unpublished : List (Service × ClaimedRow)) :
    Prop where
  made : List.Forall₂ MadeFor (Matching.entriesOf state.2 pid) published
  distinct : ((published ++ unpublished).map (fun entry => entry.2.token entry.1)).Nodup
  claimed : ∀ entry ∈ published ++ unpublished, state.1.Claimed pid entry

structure Accounted (fresh : Nat) (state : State × PublishLog) : Prop where
  fenced : Fenced state.1
  counted : Counted state.1
  known : Known state.1
  logged : state.2.map Prod.snd = state.1.publishes.map Published.publication
  begun : ∀ entry ∈ state.2, entry.1 < fresh
  spent : ∀ pid, ∃ published, Spent pid state published []

section invariant
variable {state after : State × PublishLog} {pid fresh : Nat} {published unpublished : List (Service × ClaimedRow)}

theorem Spent.drop (spent : Spent pid state published unpublished) {left : List (Service × ClaimedRow)}
    (sublist : left.Sublist unpublished) : Spent pid state published left := by
  have within : (published ++ left).Sublist (published ++ unpublished) := (List.Sublist.refl _).append sublist
  exact ⟨spent.made,spent.distinct.sublist (within.map _),fun entry member => spent.claimed entry (within.subset member)⟩

/-- History only grows, and what other processes publish is none of this one's concern. -/
theorem Spent.later (spent : Spent pid state published unpublished)
    (log : Matching.entriesOf after.2 pid = Matching.entriesOf state.2 pid)
    (claims : state.1.history.claims ⊆ after.1.history.claims)
    (recorded : state.1.history.recorded ⊆ after.1.history.recorded) : Spent pid after published unpublished := by
  refine ⟨log ▸ spent.made,spent.distinct,?_⟩
  intro entry member
  obtain ⟨token,inserted,among,columns⟩ := spent.claimed entry member
  exact ⟨claims token,inserted,recorded among,columns⟩

/-- The process publishes a row of its batch. -/
theorem Spent.publish (spent : Spent pid state published unpublished) {publication : Publication}
    (some : ∃ entry ∈ unpublished, MadeFor publication entry) {later : State}
    (claims : later.history.claims = state.1.history.claims)
    (recorded : later.history.recorded = state.1.history.recorded) :
    ∃ more, Spent pid (later,state.2 ++ [(pid,publication)]) more (withoutOne publication unpublished) := by
  obtain ⟨entry,before,after,made,rfl,erased⟩ := withoutOne_cases some
  have moved : (published ++ [entry] ++ (before ++ after)).Perm (published ++ (before ++ entry :: after)) := by
    have middle : (entry :: (before ++ after)).Perm (before ++ entry :: after) := List.perm_middle.symm
    rw [List.append_assoc]
    exact middle.append_left published
  refine ⟨published ++ [entry],?_,?_,?_⟩
  · rw [Matching.entriesOf_concat,if_pos rfl]
    exact Matching.forall₂_concat spent.made made
  · rw [erased]
    exact (moved.map _).nodup_iff.mpr spent.distinct
  · intro other member
    rw [erased] at member
    obtain ⟨token,inserted⟩ := spent.claimed other (moved.subset member)
    exact ⟨claims ▸ token,recorded ▸ inserted⟩

/-- The rows of a new batch have tokens that no claim had before. -/
theorem Spent.claims (spent : Spent pid state published unpublished) (accounted : Accounted fresh state)
    {service : Service} {lockedBy : String} {limit : Nat} {scan : List Nat}
    {update : Update OutboxEvent OutboxEvent.id}
    (means : (Statement.claim lockedBy limit).update (state.1.table service) state.1.now scan = some update) :
    Spent pid (state.1.execute pid service (.claim lockedBy limit) update,state.2) published
      ((((state.1.table service).returning update).map OutboxEvent.claimed).map (fun row => (service,row))) := by
  have tokens : ∀ rows : List OutboxEvent,
      ((rows.map OutboxEvent.claimed).map (fun row : ClaimedRow => (service,row))).map
        (fun entry => entry.2.token entry.1) = rows.map (OutboxEvent.token service) := by
    intro rows
    rw [List.map_map,List.map_map]
    rfl
  have grown := execute_claims state.1 pid service (.claim lockedBy limit) update
  refine ⟨spent.made,?_,?_⟩
  · rw [List.map_append,tokens,List.nodup_append]
    refine ⟨?_,?_,?_⟩
    · have distinct := spent.distinct
      rw [List.map_append] at distinct
      exact (List.nodup_append.mp distinct).1
    · have keys := List.pairwise_map.mp ((state.1.table service).returning_keys_nodup update)
      refine List.pairwise_map.mpr (keys.imp ?_)
      intro left right apart same
      exact apart (congrArg Token.id same)
    · intro token old other new same
      subst same
      obtain ⟨entry,member,rfl⟩ := List.mem_map.mp old
      obtain ⟨row,returned,same⟩ := List.mem_map.mp new
      obtain ⟨before,present,named,next⟩ := claim_version means returned
      have claimed := (spent.claimed entry (List.mem_append_left _ member)).1
      have bound := accounted.fenced.current service before present _ claimed (congrArg Token.service same).symm
        ((congrArg Token.id same).symm.trans named.symm)
      have version : row.lockVersion = (entry.2.token entry.1).version := congrArg Token.version same
      dsimp only at bound
      omega
  · intro entry member
    rcases List.mem_append.mp member with old | new
    · obtain ⟨token,recorded⟩ := spent.claimed entry (List.mem_append_left _ old)
      refine ⟨?_,by rw [execute_recorded]; exact recorded⟩
      rw [grown]
      exact List.mem_append_left _ token
    · obtain ⟨claimed,among,rfl⟩ := List.mem_map.mp new
      obtain ⟨row,returned,rfl⟩ := List.mem_map.mp among
      refine ⟨?_,row.recorded,?_,⟨rfl,rfl,rfl,rfl,rfl,rfl⟩⟩
      · rw [grown]
        exact List.mem_append_right _ (List.mem_map.mpr ⟨row,returned,rfl⟩)
      · rw [execute_recorded]
        obtain ⟨before,present,matched,rfl⟩ := Table.mem_returning.mp returned
        have same := write_recorded means present
        rw [Update.write_of matched] at same
        exact same ▸ accounted.known service before present

theorem Known.execute {state : State} (known : Known state) {service : Service} {statement : Statement} {scan : List Nat}
    {update : Update OutboxEvent OutboxEvent.id}
    (means : statement.update (state.table service) state.now scan = some update) :
    Known (state.execute pid service statement update) := by
  intro other row member
  rw [execute_recorded]
  rw [State.mem_execute] at member
  by_cases here : other = service
  · subst here
    rw [if_pos rfl] at member
    obtain ⟨before,present,rfl⟩ := member
    rw [write_recorded means present]
    exact known other before present
  · rw [if_neg here] at member
    exact known other row member

theorem Known.congr {state after : State} (known : Known state) (table : after.table = state.table)
    (recorded : after.history.recorded = state.history.recorded) : Known after := by
  unfold Known
  rw [table,recorded]
  exact known

theorem Known.serve {state after : State} {request : Request} {choice : Choice}
    {reply : Except Thrown (Reply returningRows request)} (known : Known state)
    (served : state.serve pid request choice = some (reply,after)) : Known after := by
  rcases State.serve_cases served with ⟨service,statement,update,rfl,means,rfl⟩ | ⟨_,table,history⟩
  · exact known.execute means
  · exact known.congr table (congrArg History.recorded history)

theorem Known.external {state after : State} {event : External} (known : Known state)
    (happened : state.external event = some after) : Known after := by
  cases event with
  | elapse ms =>
    obtain rfl := Option.some.inj happened
    exact known
  | insert service recorded nextRetryAt =>
    obtain ⟨fresh,rfl⟩ := State.external_insert happened
    intro other row member
    rcases (State.mem_insert fresh).mp member with old | ⟨rfl,rfl⟩
    · exact List.mem_append_left _ (known other row old)
    · exact List.mem_append_right _ List.mem_cons_self
  | route index =>
    obtain ⟨_,_,_,rfl⟩ := State.settlePublish_eq happened
    exact known
  | reject index =>
    obtain ⟨_,_,_,rfl⟩ := State.settlePublish_eq happened
    exact known

theorem serve_grows {state after : State} {request : Request} {choice : Choice}
    {reply : Except Thrown (Reply returningRows request)}
    (served : state.serve pid request choice = some (reply,after)) :
    state.history.claims ⊆ after.history.claims ∧ after.history.recorded = state.history.recorded := by
  rcases State.serve_cases served with ⟨service,statement,update,rfl,means,rfl⟩ | ⟨_,_,history⟩
  · refine ⟨?_,execute_recorded _ _ _ _ _⟩
    rw [execute_claims]
    exact List.subset_append_left _ _
  · rw [history]
    exact ⟨List.Subset.refl _,rfl⟩

theorem external_grows {state after : State} {event : External} (happened : state.external event = some after) :
    state.history.claims ⊆ after.history.claims ∧ state.history.recorded ⊆ after.history.recorded ∧
      after.publishes.map Published.publication = state.publishes.map Published.publication := by
  have settled : ∀ index fate, state.settlePublish index fate = some after →
      state.history.claims ⊆ after.history.claims ∧ state.history.recorded ⊆ after.history.recorded ∧
        after.publishes.map Published.publication = state.publishes.map Published.publication := by
    intro index fate settled
    obtain ⟨published,found,_,rfl⟩ := State.settlePublish_eq settled
    refine ⟨List.Subset.refl _,List.Subset.refl _,?_⟩
    obtain ⟨inside,here⟩ := List.getElem?_eq_some_iff.mp found
    rw [List.map_set]
    have same := @List.set_getElem_self _ (state.publishes.map Published.publication) index (by rwa [List.length_map])
    rw [List.getElem_map,here] at same
    exact same
  cases event with
  | elapse ms =>
    obtain rfl := Option.some.inj happened
    exact ⟨List.Subset.refl _,List.Subset.refl _,rfl⟩
  | insert service recorded nextRetryAt =>
    obtain ⟨fresh,rfl⟩ := State.external_insert happened
    exact ⟨List.Subset.refl _,List.subset_append_left _ _,rfl⟩
  | route index => exact settled index _ happened
  | reject index => exact settled index _ happened

/-- A request that publishes nothing leaves what is published and the log as they are. -/
theorem serve_unlogged {state after : State} {request : Request} {choice : Choice}
    {reply : Except Thrown (Reply returningRows request)}
    (other : ∀ channel publication, request ≠ .publish channel publication)
    (served : state.serve pid request choice = some (reply,after)) (log : PublishLog) :
    after.publishes = state.publishes ∧ log.note state (.performs pid request choice) = log := by
  cases request with
  | publish channel publication => exact absurd rfl (other channel publication)
  | query service statement =>
    obtain ⟨update,_,_,rfl⟩ := State.serve_query served
    exact ⟨rfl,rfl⟩
  | getChannel _ | inject _ | waitForConfirms _ | newDate | fencedPublish _ | declare _ =>
    exact ⟨(State.serve_same (by exact not_false) served).publishes,rfl⟩

theorem note_others {request : Request} {choice : Choice} {other : Nat} (apart : other ≠ pid) (log : PublishLog)
    (before : State) : Matching.entriesOf (log.note before (.performs pid request choice)) other =
      Matching.entriesOf log other := by
  cases request with
  | publish channel publication =>
    change Matching.entriesOf (log ++ [(pid,publication)]) other = _
    rw [Matching.entriesOf_concat,if_neg (Ne.symm apart),List.append_nil]
  | query _ _ | getChannel _ | inject _ | waitForConfirms _ | newDate | fencedPublish _ | declare _ => rfl

/-- What a request that is served does to what its process has published and may still publish. -/
theorem Accounted.serve (accounted : Accounted fresh state) (spent : Spent pid state published unpublished)
    {request : Request} (allowed : spending.allows unpublished request) {choice : Choice}
    {reply : Except Thrown (Reply returningRows request)} {next : State}
    (served : state.1.serve pid request choice = some (reply,next))
    {outcome : Except Thrown (Reply returningRows request)} (possible : outcome = reply ∨ ∃ error, outcome = .error error) :
    ∃ left more, spending.moves unpublished request outcome left ∧
      Spent pid (next,state.2.note state.1 (.performs pid request choice)) more left := by
  obtain ⟨claims,recorded⟩ := serve_grows served
  have kept : ∀ log : PublishLog, log = state.2 → Spent pid (next,log) published unpublished := by
    intro log same
    subst same
    exact spent.later rfl claims (by rw [recorded]; exact List.Subset.refl _)
  cases request with
  | publish channel publication =>
    obtain ⟨_,rfl⟩ := State.serve_publish served
    obtain ⟨more,here⟩ := @Spent.publish _ _ _ _ spent publication allowed { state.1 with
      publishes := state.1.publishes ++ [⟨channel,publication,.inFlight⟩] } rfl rfl
    refine ⟨_,more,?_,here⟩
    cases outcome <;> rfl
  | query service statement =>
    cases statement with
    | claim lockedBy limit =>
      obtain ⟨update,means,replied,rfl⟩ := State.serve_query served
      rcases possible with rfl | ⟨error,rfl⟩
      · rw [replied]
        exact ⟨_,published,rfl,spent.claims accounted means⟩
      · exact ⟨unpublished,published,rfl,kept _ rfl⟩
    | markSent _ _ | markFailed _ _ _ _ _ _ | reap _ | replayOne _ | replayFailed _ =>
      refine ⟨unpublished,published,?_,kept _ rfl⟩
      cases outcome <;> rfl
  | getChannel _ | inject _ | waitForConfirms _ | newDate | fencedPublish _ | declare _ =>
    refine ⟨unpublished,published,?_,kept _ rfl⟩
    cases outcome <;> rfl

theorem Accounted.logs (accounted : Accounted fresh state) {request : Request} {choice : Choice}
    {reply : Except Thrown (Reply returningRows request)} {next : State} (below : pid < fresh)
    (served : state.1.serve pid request choice = some (reply,next)) :
    (state.2.note state.1 (.performs pid request choice)).map Prod.snd = next.publishes.map Published.publication ∧
      ∀ entry ∈ state.2.note state.1 (.performs pid request choice), entry.1 < fresh := by
  by_cases writes : ∃ channel publication, request = .publish channel publication
  · obtain ⟨channel,publication,rfl⟩ := writes
    obtain ⟨_,rfl⟩ := State.serve_publish served
    change (state.2 ++ [(pid,publication)]).map Prod.snd = _ ∧ ∀ entry ∈ state.2 ++ [(pid,publication)], _
    refine ⟨?_,?_⟩
    · rw [List.map_append,List.map_append,accounted.logged]
      rfl
    · intro entry member
      rcases List.mem_append.mp member with old | new
      · exact accounted.begun entry old
      · exact List.mem_singleton.mp new ▸ below
  · have other : ∀ channel publication, request ≠ .publish channel publication :=
      fun channel publication same => writes ⟨channel,publication,same⟩
    obtain ⟨same,log⟩ := serve_unlogged other served state.2
    rw [log,same]
    exact ⟨accounted.logged,accounted.begun⟩

theorem Accounted.external {event : External} {next : State} (accounted : Accounted fresh state)
    (happened : state.1.external event = some next) : Accounted fresh (next,state.2) := by
  obtain ⟨claims,recorded,publishes⟩ := external_grows happened
  refine ⟨accounted.fenced.external happened,accounted.counted.external accounted.fenced happened,
    accounted.known.external happened,accounted.logged.trans publishes.symm,accounted.begun,?_⟩
  intro pid
  obtain ⟨published,spent⟩ := accounted.spent pid
  exact ⟨published,spent.later rfl claims recorded⟩

theorem Accounted.initial (now : Int) (broker : Amqp.Topology) :
    Accounted 0 (.initial now (fun _ => Table.empty) broker,[]) where
  fenced := .initial _ _ _
  counted := .initial _ _
  known _ _ member := (Table.not_mem_empty _ member).elim
  logged := rfl
  begun _ member := by cases member
  spent _ := ⟨[],.nil,List.nodup_nil,fun _ member => by cases member⟩

/-- Every message on the wire is the publication of a row under a claim of the process that wrote it. -/
theorem Accounted.sound (settings : Settings) : (loggedWorld returningRows settings).Sound spending
    (fun _ _ => True) (fun _ _ => True) Accounted
    (fun pid state unpublished => ∃ published, Spent pid state published unpublished) where
  starts fresh state task program after accounted _ started := by
    obtain ⟨rfl,rfl⟩ := Prod.mk.inj (Option.some.inj started)
    have begun : ∀ entry ∈ state.2, entry.1 < fresh + 1 :=
      fun entry member => Nat.lt_succ_of_lt (accounted.begun entry member)
    have none : Matching.entriesOf state.2 fresh = [] :=
      Matching.entriesOf_eq_nil (fun entry member => Nat.ne_of_lt (accounted.begun entry member))
    refine ⟨⟨accounted.fenced,accounted.counted,accounted.known,accounted.logged,begun,accounted.spent⟩,?_,
      fun _ _ _ spent => spent⟩
    refine ⟨[],⟨[],?_,List.nodup_nil,fun _ member => by cases member⟩,Task.program_spends settings task⟩
    change List.Forall₂ MadeFor (Matching.entriesOf state.2 fresh) []
    rw [none]
    exact .nil
  serves fresh state pid unpublished request answer choice reply after accounted below known allowed _ _ served := by
    obtain ⟨published,spent⟩ := known
    obtain ⟨performed,log⟩ := World.withGhost_serve served
    obtain ⟨next,grown⟩ := after
    obtain rfl : grown = _ := log
    obtain ⟨claims,recorded⟩ := serve_grows performed
    have others : ∀ other, other ≠ pid → ∀ theirs left, Spent other state theirs left →
        Spent other (next,state.2.note state.1 (.performs pid request choice)) theirs left :=
      fun other apart theirs left spent => spent.later (note_others apart state.2 state.1) claims
        (by rw [recorded]; exact List.Subset.refl _)
    have logs := accounted.logs below performed
    have mine := fun outcome => @Accounted.serve _ pid fresh _ _ accounted spent _ allowed _ _ _ performed outcome
    refine ⟨⟨accounted.fenced.serve performed,accounted.counted.serve performed,accounted.known.serve performed,
      logs.1,logs.2,?_⟩,?_,?_⟩
    · intro other
      by_cases self : other = pid
      · obtain ⟨left,more,_,here⟩ := mine reply (.inl rfl)
        exact ⟨more,self ▸ here.drop (List.nil_sublist _)⟩
      · obtain ⟨theirs,spent⟩ := accounted.spent other
        exact ⟨theirs,others other self theirs [] spent⟩
    · intro outcome possible
      obtain ⟨left,more,moved,here⟩ := mine outcome (possible.imp_right (fun failed => ⟨failed.choose,failed.choose_spec.2⟩))
      exact ⟨left,moved,more,here⟩
    · intro other apart left known
      obtain ⟨theirs,spent⟩ := known
      exact ⟨theirs,others other apart theirs left spent⟩
  refuses fresh state pid unpublished request error _ known _ _ := by
    obtain ⟨published,spent⟩ := known
    cases request with
    | publish channel publication => exact ⟨_,rfl,published,spent.drop (withoutOne_sublist publication unpublished)⟩
    | query service statement => exact ⟨unpublished,by cases statement <;> rfl,published,spent⟩
    | getChannel _ | inject _ | waitForConfirms _ | newDate | fencedPublish _ | declare _ =>
      exact ⟨unpublished,rfl,published,spent⟩
  crashes _ _ _ accounted _ := ⟨accounted,fun _ _ _ spent => spent⟩
  externals fresh state event after accounted _ happened := by
    obtain ⟨next,done,same⟩ := Option.map_eq_some_iff.mp happened
    obtain rfl := same
    obtain ⟨claims,recorded,_⟩ := external_grows done
    refine ⟨accounted.external done,?_⟩
    intro pid unpublished known
    obtain ⟨published,spent⟩ := known
    exact ⟨published,spent.later rfl claims recorded⟩

end invariant

theorem Fenced.owner {state : State} (fenced : Fenced state) {token : Token} {pid other : Nat}
    (mine : (token,pid) ∈ state.history.claims) (theirs : (token,other) ∈ state.history.claims) : pid = other := by
  have distinct : (state.history.claims.map Prod.fst).Nodup := by
    refine List.pairwise_map.mpr (fenced.ordered.imp ?_)
    intro earlier later above same
    have less := above ⟨congrArg Token.service same,congrArg Token.id same⟩
    rw [same] at less
    exact lt_irrefl _ less
  exact congrArg Prod.snd (List.inj_on_of_nodup_map distinct mine theirs rfl)

/-- Distinct tokens of one row have distinct versions, and there are no more of them than claims. -/
theorem Counted.bounds {state : State} (counted : Counted state) {entries : List (Service × ClaimedRow)}
    (distinct : (entries.map (fun entry => entry.2.token entry.1)).Nodup)
    (claimed : ∀ entry ∈ entries, ∃ pid, state.Claimed pid entry) {service : Service} {row : OutboxEvent}
    (member : row ∈ state.table service) : ∃ count : Nat, row.lockVersion = count ∧
      state.versions service row.id = (List.range count).map (fun earlier : Nat => (earlier : Int) + 1) ∧
      (entries.filter (fun entry => entry.1 == service && entry.2.id == row.id)).length ≤ count := by
  obtain ⟨count,version,versions⟩ := counted service row member
  refine ⟨count,version,versions,?_⟩
  let mine := entries.filter (fun entry => entry.1 == service && entry.2.id == row.id)
  have named : ∀ entry ∈ mine, entry ∈ entries ∧ entry.1 = service ∧ entry.2.id = row.id := by
    intro entry among
    obtain ⟨present,same⟩ := List.mem_filter.mp among
    obtain ⟨there,id⟩ := Bool.and_eq_true_iff.mp same
    exact ⟨present,eq_of_beq there,eq_of_beq id⟩
  have once : (mine.map (fun entry => entry.2.lockVersion)).Nodup := by
    have sublist : mine.Sublist entries := List.filter_sublist
    have tokens := List.pairwise_map.mp (distinct.sublist (sublist.map _))
    refine List.pairwise_map.mpr (tokens.imp_of_mem ?_)
    intro left right one two apart same
    obtain ⟨_,there,id⟩ := named left one
    obtain ⟨_,here,other⟩ := named right two
    apply apart
    simp only [ClaimedRow.token,there,here,id,other,same]
  have within : ∀ version ∈ mine.map (fun entry => entry.2.lockVersion), version ∈ state.versions service row.id := by
    intro version among
    obtain ⟨entry,present,rfl⟩ := List.mem_map.mp among
    obtain ⟨inside,rfl,id⟩ := named entry present
    obtain ⟨pid,token,_⟩ := claimed entry inside
    refine List.mem_map.mpr ⟨_,List.mem_filter.mpr ⟨token,?_⟩,rfl⟩
    simp [ClaimedRow.token,id]
  have bound := once.length_le_of_subset within
  rw [versions] at bound
  simpa using bound

/-- A run of the relays can be read with the process that wrote each of its messages. -/
theorem reach_accounted (settings : Settings) (now : Int) (broker : Amqp.Topology) {pool : RelayPool}
    (reached : (relayWorld returningRows settings).Reach (fun _ _ => True)
      (.initial now (fun _ => Table.empty) broker) pool) :
    ∃ log, Accounted pool.fresh (pool.shared,log) := by
  obtain ⟨haunted,rfl,logged⟩ := @World.Reach.haunt _ _ _ _ _ _ _ _ _ PublishLog.note _ _ [] _ reached
  exact ⟨haunted.shared.2,World.reach_inv (Accounted.sound settings) (Accounted.initial now broker) logged⟩

/-- Whatever is on the wire was claimed by some process. -/
theorem Accounted.published {fresh : Nat} {state : State × PublishLog} (accounted : Accounted fresh state)
    {published : Published} (member : published ∈ state.1.publishes) :
    ∃ pid entry, MadeFor published.publication entry ∧ state.1.Claimed pid entry := by
  have logged : published.publication ∈ state.2.map Prod.snd := accounted.logged ▸ List.mem_map_of_mem member
  obtain ⟨⟨pid,publication⟩,present,same⟩ := List.mem_map.mp logged
  obtain ⟨entries,spent⟩ := accounted.spent pid
  obtain ⟨entry,among,made⟩ := Matching.exists_of_mem spent.made (Matching.mem_entriesOf.mpr present)
  exact ⟨pid,entry,same ▸ made,spent.claimed entry (List.mem_append_left _ among)⟩

/-- Every message on the wire is made for a row that was inserted, under a claim of the process that wrote it, and
no two under one claim. A row has been claimed once under each version up to its `lock_version`, which bounds how
often it is published. -/
theorem publications_claimed (settings : Settings) (now : Int) (broker : Amqp.Topology)
    {pool : Pool (State × PublishLog) Thrown Request (Reply returningRows)}
    (reached : (loggedWorld returningRows settings).Reach (World.Unghosted (fun _ _ => True))
      (.initial now (fun _ => Table.empty) broker,[]) pool) :
    pool.shared.2.map Prod.snd = pool.shared.1.publishes.map Published.publication ∧
    ∃ entries : List (Service × ClaimedRow),
      List.Forall₂ (fun written entry => MadeFor written.2 entry ∧ pool.shared.1.Claimed written.1 entry)
        pool.shared.2 entries ∧
      (entries.map (fun entry => entry.2.token entry.1)).Nodup ∧
      ∀ service, ∀ row ∈ pool.shared.1.table service, ∃ count : Nat, row.lockVersion = count ∧
        pool.shared.1.versions service row.id = (List.range count).map (fun earlier : Nat => (earlier : Int) + 1) ∧
        (entries.filter (fun entry => entry.1 == service && entry.2.id == row.id)).length ≤ count := by
  have accounted : Accounted pool.fresh pool.shared :=
    World.reach_inv (Accounted.sound settings) (Accounted.initial now broker) reached
  refine ⟨accounted.logged,?_⟩
  choose parts spent using accounted.spent
  have own : ∀ pid, ∀ entry ∈ parts pid, pool.shared.1.Claimed pid entry :=
    fun pid entry member => (spent pid).claimed entry (List.mem_append_left _ member)
  have whole := @Matching.exists_whole _ _ _ _ _ MadeFor (fun entry : Service × ClaimedRow => entry.2.token entry.1)
    pool.shared.2 parts (fun pid => (spent pid).made) ?_ ?_
  · obtain ⟨entries,matched,distinct⟩ := whole
    have made : List.Forall₂ (fun written entry => MadeFor written.2 entry ∧ pool.shared.1.Claimed written.1 entry)
        pool.shared.2 entries := matched.imp (fun written entry found => ⟨found.1,own written.1 entry found.2⟩)
    have claimed : ∀ entry ∈ entries, ∃ pid, pool.shared.1.Claimed pid entry := by
      intro entry member
      obtain ⟨written,_,_,claims⟩ := Matching.exists_of_mem made.flip member
      exact ⟨written.1,claims⟩
    exact ⟨entries,made,distinct,fun _ _ member => accounted.counted.bounds distinct claimed member⟩
  · intro pid
    have distinct := (spent pid).distinct
    rwa [List.append_nil] at distinct
  · intro pid other apart mine present theirs there same
    have first := (own pid mine present).1
    have second := (own other theirs there).1
    rw [← same] at second
    exact apart (accounted.fenced.owner first second)

/-- The slow relay and the quick one both publish the row, each under its own claim. -/
def twicePublished : List RelayAction := slowRelay ++ [
  .resume 2 (.served { channel := 8 }),
  .resume 2 (.served {}),
  .resume 2 (.served {})]

set_option maxRecDepth 4000 in
theorem twice_published_claimed : ∃ pool : Pool (State × PublishLog) Thrown Request (Reply returningRows),
    pool.shared.2.map Prod.fst = [0,2] ∧ pool.shared.1.versions .messaging 1 = [1,2] ∧
    ∃ entries : List (Service × ClaimedRow),
      List.Forall₂ (fun written entry => MadeFor written.2 entry ∧ pool.shared.1.Claimed written.1 entry)
        pool.shared.2 entries ∧
      (entries.map (fun entry => entry.2.token entry.1)).Nodup := by
  let ran := Machine.run (loggedWorld returningRows sampleSettings).step (World.empty (sampleState,[])) twicePublished
  let pool := ran.get (by decide)
  have reached : (loggedWorld returningRows sampleSettings).Reach
      (World.Unghosted (fun _ _ => True)) (sampleState,[]) pool :=
    Machine.run_reaches (Option.some_get _).symm (by decide)
  obtain ⟨_,entries,made,distinct,_⟩ := publications_claimed sampleSettings 0 _ reached
  exact ⟨pool,by decide,by decide,entries,made,distinct⟩

end MessagingPlatform.Outbox

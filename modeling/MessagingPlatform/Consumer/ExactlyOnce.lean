import MessagingPlatform.Consumer.Steps

/-! The ledger, the messages and the outbox stay in step: an event is processed at most once, and
whatever commits for it commits in all three tables. -/
namespace MessagingPlatform.Consumer

def State.Processed (state : State) (eventId : String) : Prop :=
  ∃ transaction ∈ state.transactions, transaction.status = .committed ∧
    transaction.records eventId = true ∧ transaction.messages ≠ []

def Complete (settings : Settings) (state : State) (transaction : Transaction) : Prop :=
  ∃ eventId, state.deliveredEvent settings transaction.pid = some eventId ∧
    transaction.ledger.map IdempotencyInput.eventId = [eventId] ∧ transaction.messages.length = 1 ∧
    transaction.outbox.map NewOutboxEvent.eventType = ["MessagePersisted"]

def Phase.Shows (eventId : Option String) (transaction : Transaction) : Phase → Prop
  | .idle => False
  | .opened => transaction.ledger = [] ∧ transaction.messages = [] ∧ transaction.outbox = []
  | .recorded => transaction.ledger.map (fun row => some row.eventId) = [eventId] ∧
      transaction.messages = [] ∧ transaction.outbox = []
  | .stored => transaction.ledger.map (fun row => some row.eventId) = [eventId] ∧
      transaction.messages.length = 1 ∧ transaction.outbox = []
  | .ready => transaction.ledger.map (fun row => some row.eventId) = [eventId] ∧
      transaction.messages.length = 1 ∧
      transaction.outbox.map NewOutboxEvent.eventType = ["MessagePersisted"]
  | .committed | .duplicate | .broken => True

structure Consistent (settings : Settings) (fresh : Nat) (state : State) : Prop where
  started : ∀ transaction ∈ state.transactions, transaction.pid < fresh
  unique : ∀ left ∈ state.transactions, ∀ right ∈ state.transactions, left.status ≠ .rolledBack →
    right.status ≠ .rolledBack → ∀ eventId, left.records eventId = true →
    right.records eventId = true → left = right
  complete : ∀ transaction ∈ state.transactions, transaction.status = .committed →
    Complete settings state transaction

structure Informed (settings : Settings) (pid : Nat) (state : State) (view : View) : Prop where
  delivered : state.delivered pid = some view.tag
  known : view.tag < state.envelopes.length
  carries : state.carriedBy settings view.tag = view.eventId
  holds : ∀ transaction ∈ state.transactions, transaction.pid = pid →
    (view.phase = .idle ∨ transaction.status = .active) → view.phase.Shows view.eventId transaction
  concluded : view.phase = .committed ∨ view.phase = .duplicate →
    ∃ eventId, view.eventId = some eventId ∧ state.Processed eventId

inductive Change (pid : Nat) (before after : State) : Prop
  | same (records : SameRecords before after)
  | begins (begun : Begins pid before after)
  | writes (set : Transaction → Transaction) (written : Writes pid set before after)

theorem State.serve_changes {state after : State} {pid : Nat} {request : Request} {choice : Choice}
    {reply : Except Thrown (Reply request)}
    (served : state.serve pid request choice = some (reply,after)) : Change pid state after := by
  cases apart : request.transacts with
  | false => exact .same (serve_same apart served)
  | true =>
    cases request with
    | startTransaction =>
      exact .begins (serve_startTransaction served).2
    | saveProcessedEvent row =>
      rcases serve_saveProcessedEvent served with ⟨_,rfl,_⟩ | ⟨_,rfl,_⟩
      · exact .writes _ (writes_modify _ _ _ _)
      · exact .same ⟨rfl,rfl,rfl⟩
    | saveMessage row =>
      obtain ⟨message,_,written⟩ := serve_saveMessage served
      exact .writes _ written
    | saveOutboxEvent row =>
      obtain ⟨_,rfl⟩ := serve_saveOutboxEvent served
      exact .writes _ (writes_modify _ _ _ _)
    | commitTransaction =>
      obtain ⟨_,_,rfl⟩ := serve_commitTransaction served
      exact .writes _ (writes_modify _ _ _ _)
    | rollbackTransaction =>
      obtain rfl := serve_rollbackTransaction served
      exact .writes _ (writes_modify _ _ _ _)
    | lifecycle _ | recordAttempt _ | clearAttempts _ | connect | release | newDate | randomUUID | inject
    | getChannel | publish _ _ | waitForConfirms _ | ack | nack _ | count _ => cases apart

namespace Change

variable {settings : Settings} {pid : Nat} {before after : State}

theorem envelopes (change : Change pid before after) : after.envelopes = before.envelopes := by
  cases change with
  | same records => exact records.envelopes
  | begins begun => exact begun.envelopes
  | writes set written => exact written.envelopes

theorem delivered (change : Change pid before after) : after.delivered = before.delivered := by
  cases change with
  | same records => exact records.delivered
  | begins begun => exact begun.delivered
  | writes set written => exact written.delivered

theorem keeps (change : Change pid before after) {transaction : Transaction}
    (member : transaction ∈ before.transactions) (apart : transaction.activeOf pid = false) :
    transaction ∈ after.transactions := by
  cases change with
  | same records => rw [records.transactions]; exact member
  | begins begun => exact (begun.transactions transaction).mpr (.inl member)
  | writes set written =>
    refine (written.transactions transaction).mpr ⟨transaction,member,?_⟩
    rw [apart]
    rfl

theorem other (change : Change pid before after) {transaction : Transaction}
    (member : transaction ∈ after.transactions) (apart : transaction.pid ≠ pid) :
    transaction ∈ before.transactions := by
  cases change with
  | same records => rw [← records.transactions]; exact member
  | begins begun =>
    rcases (begun.transactions transaction).mp member with old | rfl
    · exact old
    · exact absurd rfl apart
  | writes set written =>
    obtain ⟨old,present,same⟩ := (written.transactions transaction).mp member
    by_cases active : old.activeOf pid = true
    · rw [if_pos active] at same
      have owner : transaction.pid = pid := by
        rw [same,written.keepsPid]
        exact (Transaction.activeOf_iff.mp active).1
      exact absurd owner apart
    · rw [if_neg active] at same
      exact same ▸ present

theorem carriedBy (change : Change pid before after) :
    after.carriedBy settings = before.carriedBy settings := by
  funext tag
  simp only [State.carriedBy,change.envelopes]

theorem deliveredEvent (change : Change pid before after) (other : Nat) :
    after.deliveredEvent settings other = before.deliveredEvent settings other := by
  simp only [State.deliveredEvent,change.delivered,change.carriedBy]

theorem delivers (change : Change pid before after) (settings : Settings) (other : Nat) (eventId : String)
    (event : before.deliveredEvent settings other = some eventId) :
    after.deliveredEvent settings other = some eventId := by
  rw [change.deliveredEvent]
  exact event

theorem processed (change : Change pid before after) {eventId : String}
    (processed : before.Processed eventId) : after.Processed eventId := by
  obtain ⟨transaction,member,committed,records,messages⟩ := processed
  have settled : transaction.activeOf pid = false := by simp [Transaction.activeOf,committed]
  exact ⟨transaction,change.keeps member settled,committed,records,messages⟩

end Change

variable {settings : Settings} {fresh pid : Nat} {before after : State} {view : View}

theorem Complete.congr {transaction : Transaction} (complete : Complete settings before transaction)
    (delivered : ∀ pid eventId, before.deliveredEvent settings pid = some eventId →
      after.deliveredEvent settings pid = some eventId) : Complete settings after transaction := by
  obtain ⟨eventId,event,rows⟩ := complete
  exact ⟨eventId,delivered _ _ event,rows⟩

/-- A write keeps the tables in step when it records only an event that no live transaction has,
and commits only a complete transaction. -/
theorem Consistent.writes (consistent : Consistent settings fresh before)
    {set : Transaction → Transaction} (written : Writes pid set before after)
    (records : ∀ old ∈ before.transactions, old.activeOf pid = true → ∀ eventId,
      (set old).records eventId = true → old.records eventId = true ∨
        ∀ other ∈ before.transactions, other.status ≠ .rolledBack → other.records eventId = false)
    (completes : ∀ old ∈ before.transactions, old.activeOf pid = true →
      (set old).status = .committed → Complete settings before (set old)) :
    Consistent settings fresh after := by
  have delivered := (Change.writes set written).delivers settings
  refine ⟨?_,?_,?_⟩
  · intro transaction member
    obtain ⟨old,present,rfl⟩ := (written.transactions transaction).mp member
    split
    next => rw [written.keepsPid]; exact consistent.started old present
    next => exact consistent.started old present
  · -- Of two transactions that record the same event, one would have to be a new record of an
    -- event that the other has recorded already.
    have origin : ∀ transaction ∈ after.transactions, transaction.status ≠ .rolledBack → ∀ eventId,
        transaction.records eventId = true → ∃ old ∈ before.transactions, old.status ≠ .rolledBack ∧
          (transaction = if old.activeOf pid then set old else old) ∧ (old.records eventId = true ∨
            old.activeOf pid = true ∧ ∀ other ∈ before.transactions, other.status ≠ .rolledBack →
              other.records eventId = false) := by
      intro transaction member live eventId recorded
      obtain ⟨old,present,same⟩ := (written.transactions transaction).mp member
      by_cases active : old.activeOf pid = true
      · have alive : old.status ≠ .rolledBack := by simp [(Transaction.activeOf_iff.mp active).2]
        have here : transaction = set old := same.trans (if_pos active)
        rw [here] at recorded
        rcases records old present active eventId recorded with already | new
        · exact ⟨old,present,alive,same,.inl already⟩
        · exact ⟨old,present,alive,same,.inr ⟨active,new⟩⟩
      · have here : transaction = old := same.trans (if_neg active)
        exact ⟨old,present,here ▸ live,same,.inl (here ▸ recorded)⟩
    intro left first right second leftLive rightLive eventId leftRecords rightRecords
    obtain ⟨old,present,live,same,how⟩ := origin left first leftLive eventId leftRecords
    obtain ⟨old',present',live',same',how'⟩ := origin right second rightLive eventId rightRecords
    have equal : old = old' := by
      rcases how with already | ⟨active,new⟩
      · rcases how' with already' | ⟨_,new'⟩
        · exact consistent.unique old present old' present' live live' eventId already already'
        · exact absurd (already.symm.trans (new' old present live)) (by simp)
      · rcases how' with already' | ⟨active',_⟩
        · exact absurd (already'.symm.trans (new old' present' live')) (by simp)
        · have owner := (Transaction.activeOf_iff.mp active).1
          have owner' := (Transaction.activeOf_iff.mp active').1
          exact Table.eq_of_key present present' (owner.trans owner'.symm)
    rw [same,same',equal]
  · intro transaction member committed
    obtain ⟨old,present,same⟩ := (written.transactions transaction).mp member
    by_cases active : old.activeOf pid = true
    · rw [if_pos active] at same
      subst same
      exact (completes old present active committed).congr delivered
    · rw [if_neg active] at same
      subst same
      exact (consistent.complete transaction present committed).congr delivered

theorem Consistent.begins (consistent : Consistent settings fresh before) (below : pid < fresh)
    (begun : Begins pid before after) : Consistent settings fresh after := by
  have delivered := (Change.begins begun).delivers settings
  refine ⟨?_,?_,?_⟩
  · intro transaction member
    rcases (begun.transactions transaction).mp member with old | rfl
    · exact consistent.started transaction old
    · exact below
  · intro left first right second leftLive rightLive eventId leftRecords rightRecords
    rcases (begun.transactions left).mp first with old | rfl
    · rcases (begun.transactions right).mp second with old' | rfl
      · exact consistent.unique left old right old' leftLive rightLive eventId leftRecords rightRecords
      · cases rightRecords
    · cases leftRecords
  · intro transaction member committed
    rcases (begun.transactions transaction).mp member with old | rfl
    · exact (consistent.complete transaction old committed).congr delivered
    · cases committed

theorem Consistent.same (consistent : Consistent settings fresh before) (records : SameRecords before after) :
    Consistent settings fresh after := by
  have change : Change fresh before after := .same records
  have delivered := change.delivers settings
  have same := records.transactions
  exact ⟨same ▸ consistent.started,same ▸ consistent.unique,
    fun transaction member committed =>
      (consistent.complete transaction (same ▸ member) committed).congr delivered⟩

theorem Informed.complete (informed : Informed settings pid before view) (ready : view.phase = .ready)
    {transaction : Transaction} (member : transaction ∈ before.transactions)
    (active : transaction.activeOf pid = true) : ∃ eventId, view.eventId = some eventId ∧
      transaction.records eventId = true ∧ transaction.messages ≠ [] ∧
      Complete settings before { transaction with status := .committed } := by
  obtain ⟨owner,status⟩ := Transaction.activeOf_iff.mp active
  have shows := informed.holds transaction member owner (.inr status)
  rw [ready] at shows
  obtain ⟨ledger,messages,outbox⟩ := shows
  obtain ⟨row,rows,event⟩ : ∃ row, transaction.ledger = [row] ∧ some row.eventId = view.eventId := by
    obtain ⟨row,rest,rows,event,done⟩ := List.map_eq_cons_iff.mp ledger
    rw [List.map_eq_nil_iff] at done
    exact ⟨row,done ▸ rows,event⟩
  have stored : transaction.messages ≠ [] := by
    intro empty
    rw [empty] at messages
    cases messages
  have delivered : before.deliveredEvent settings transaction.pid = some row.eventId := by
    rw [owner,event,← informed.carries]
    simp [State.deliveredEvent,informed.delivered]
  refine ⟨row.eventId,event.symm,?_,stored,row.eventId,delivered,?_,messages,outbox⟩
  · simp [Transaction.records,rows]
  · simp [rows]

theorem Consistent.serve (consistent : Consistent settings fresh before) (below : pid < fresh)
    (informed : Informed settings pid before view) {request : Request} {choice : Choice}
    {reply : Except Thrown (Reply request)} (allowed : (discipline settings).allows view request)
    (served : before.serve pid request choice = some (reply,after)) : Consistent settings fresh after := by
  cases apart : request.transacts with
  | false => exact consistent.same (State.serve_same apart served)
  | true =>
    cases request with
    | startTransaction => exact consistent.begins below (State.serve_startTransaction served).2
    | saveProcessedEvent row =>
      rcases State.serve_saveProcessedEvent served with ⟨_,rfl,new⟩ | ⟨_,rfl,_⟩
      · refine consistent.writes (State.writes_modify _ _ _ _) ?_ ?_
        · intro old present active eventId recorded
          simp only [Transaction.records,List.any_append,Bool.or_eq_true,List.any_cons,List.any_nil,
            Bool.or_false,beq_iff_eq] at recorded
          rcases recorded with already | rfl
          · exact .inl already
          · exact .inr new
        · intro old present active committed
          have status := (Transaction.activeOf_iff.mp active).2
          exact absurd (status.symm.trans committed) (by simp)
      · exact consistent
    | saveMessage row =>
      obtain ⟨message,_,written⟩ := State.serve_saveMessage served
      refine consistent.writes written (fun _ _ _ _ recorded => .inl recorded) ?_
      intro old present active committed
      have status := (Transaction.activeOf_iff.mp active).2
      exact absurd (status.symm.trans committed) (by simp)
    | saveOutboxEvent row =>
      obtain ⟨_,rfl⟩ := State.serve_saveOutboxEvent served
      refine consistent.writes (State.writes_modify _ _ _ _) (fun _ _ _ _ recorded => .inl recorded) ?_
      intro old present active committed
      have status := (Transaction.activeOf_iff.mp active).2
      exact absurd (status.symm.trans committed) (by simp)
    | commitTransaction =>
      obtain ⟨_,_,rfl⟩ := State.serve_commitTransaction served
      refine consistent.writes (State.writes_modify _ _ _ _) (fun _ _ _ _ recorded => .inl recorded) ?_
      intro old present active committed
      obtain ⟨_,_,_,_,complete⟩ := informed.complete allowed present active
      exact complete
    | rollbackTransaction =>
      obtain rfl := State.serve_rollbackTransaction served
      refine consistent.writes (State.writes_modify _ _ _ _) (fun _ _ _ _ recorded => .inl recorded) ?_
      intro old present active committed
      cases committed
    | lifecycle _ | recordAttempt _ | clearAttempts _ | connect | release | newDate | randomUUID | inject
    | getChannel | publish _ _ | waitForConfirms _ | ack | nack _ | count _ => cases apart

namespace Informed

theorem congr (informed : Informed settings pid before view) (records : SameRecords before after)
    {next : View} (tag : next.tag = view.tag) (event : next.eventId = view.eventId)
    (phase : next.phase = view.phase) : Informed settings pid after next where
  delivered := by rw [records.delivered,tag]; exact informed.delivered
  known := by rw [records.envelopes,tag]; exact informed.known
  carries := by
    have change : Change pid before after := .same records
    have carried : after.carriedBy settings = before.carriedBy settings := change.carriedBy
    rw [carried,tag,event]
    exact informed.carries
  holds := by
    rw [records.transactions,phase,event]
    exact informed.holds
  concluded := by
    have change : Change pid before after := .same records
    rw [phase,event]
    intro concluded
    obtain ⟨eventId,same,processed⟩ := informed.concluded concluded
    exact ⟨eventId,same,change.processed processed⟩

theorem moves (informed : Informed settings pid before view) {other : Nat}
    (change : Change other before after) {phase : Phase} (holds : ∀ transaction ∈ after.transactions, transaction.pid = pid →
      (phase = .idle ∨ transaction.status = .active) → phase.Shows view.eventId transaction)
    (concluded : phase = .committed ∨ phase = .duplicate →
      ∃ eventId, view.eventId = some eventId ∧ after.Processed eventId) :
    Informed settings pid after { view with phase } where
  delivered := by rw [change.delivered]; exact informed.delivered
  known := by rw [change.envelopes]; exact informed.known
  carries := by rw [change.carriedBy]; exact informed.carries
  holds := holds
  concluded := concluded

theorem broken (informed : Informed settings pid before view) (change : Change pid before after) :
    Informed settings pid after { view with phase := .broken } :=
  informed.moves change (fun _ _ _ _ => trivial) (by simp)

theorem writes (informed : Informed settings pid before view) {set : Transaction → Transaction}
    (written : Writes pid set before after) {phase : Phase} (running : phase ≠ .idle)
    (advances : ∀ old, view.phase.Shows view.eventId old → phase.Shows view.eventId (set old))
    (unconcluded : phase ≠ .committed ∧ phase ≠ .duplicate) :
    Informed settings pid after { view with phase } := by
  refine informed.moves (.writes set written) ?_ ?_
  · intro transaction member owner condition
    have active : transaction.status = .active := condition.resolve_left running
    obtain ⟨old,present,same⟩ := (written.transactions transaction).mp member
    by_cases mine : old.activeOf pid = true
    · obtain ⟨owned,status⟩ := Transaction.activeOf_iff.mp mine
      rw [if_pos mine] at same
      rw [same]
      exact advances old (informed.holds old present owned (.inr status))
    · rw [if_neg mine] at same
      subst same
      exact absurd (Transaction.activeOf_iff.mpr ⟨owner,active⟩) mine
  · intro concluded
    rcases concluded with same | same
    · exact absurd same unconcluded.1
    · exact absurd same unconcluded.2

/-- A view does not mind that a transaction is rolled back, be it its own or another. -/
theorem rolledBack (informed : Informed settings pid before view) {other : Nat}
    (written : Writes other (fun transaction => { transaction with status := .rolledBack }) before after) :
    Informed settings pid after view := by
  have change := Change.writes _ written
  refine informed.moves change ?_ ?_
  · intro transaction member owner condition
    obtain ⟨old,present,same⟩ := (written.transactions transaction).mp member
    by_cases active : old.activeOf other = true
    · rw [if_pos active] at same
      subst same
      have idle : view.phase = .idle := condition.resolve_right (by simp)
      have shows := informed.holds old present owner (.inl idle)
      rw [idle] at shows
      exact shows.elim
    · rw [if_neg active] at same
      exact informed.holds transaction (same ▸ present) owner condition
  · intro concluded
    obtain ⟨eventId,event,processed⟩ := informed.concluded concluded
    exact ⟨eventId,event,change.processed processed⟩

theorem other (informed : Informed settings pid before view) {other : Nat} (apart : pid ≠ other)
    (change : Change other before after) : Informed settings pid after view := by
  refine informed.moves change ?_ ?_
  · intro transaction member owner condition
    have present := change.other member (fun same => apart (owner.symm.trans same))
    exact informed.holds transaction present owner condition
  · intro concluded
    obtain ⟨eventId,same,processed⟩ := informed.concluded concluded
    exact ⟨eventId,same,change.processed processed⟩

end Informed

theorem observe_apart {request : Request} (apart : request.transacts = false) (view : View)
    (outcome : Except Thrown (Reply request)) : (view.observe request outcome).tag = view.tag ∧
      (view.observe request outcome).eventId = view.eventId ∧
      (view.observe request outcome).phase = view.phase := by
  cases request with
  | startTransaction | saveProcessedEvent _ | saveMessage _ | saveOutboxEvent _ | commitTransaction
  | rollbackTransaction => cases apart
  | lifecycle _ | recordAttempt _ | clearAttempts _ | connect | release | newDate | randomUUID | inject
  | getChannel | publish _ _ | waitForConfirms _ | ack | nack _ | count _ =>
    cases outcome <;> exact ⟨rfl,rfl,rfl⟩

theorem Informed.conflict (informed : Informed settings pid before view)
    (consistent : Consistent settings fresh before) (opened : view.phase = .opened) {eventId : String}
    {transaction : Transaction} (member : transaction ∈ before.transactions)
    (holds : transaction.status = .committed ∨ transaction.activeOf pid = true)
    (records : transaction.records eventId = true) : before.Processed eventId := by
  rcases holds with committed | active
  · obtain ⟨_,_,_,messages,_⟩ := consistent.complete transaction member committed
    refine ⟨transaction,member,committed,records,?_⟩
    intro empty
    rw [empty] at messages
    cases messages
  · obtain ⟨owner,status⟩ := Transaction.activeOf_iff.mp active
    have shows := informed.holds transaction member owner (.inr status)
    rw [opened] at shows
    rw [Transaction.records,shows.1] at records
    cases records

/-- An error that the environment makes up is no unique violation. -/
theorem observe_lost {row : IdempotencyInput} {error : Thrown} (fails : Request.fails (.saveProcessedEvent row) error)
    (view : View) : view.observe (.saveProcessedEvent row) (.error error) = { view with phase := .broken } := by
  have other : isUniqueViolation error = false := by simpa [Request.fails] using fails
  simp [View.observe,other]

theorem Informed.serve (informed : Informed settings pid before view)
    (consistent : Consistent settings fresh before) {request : Request} {choice : Choice}
    {reply outcome : Except Thrown (Reply request)} (allowed : (discipline settings).allows view request)
    (served : before.serve pid request choice = some (reply,after))
    (possible : outcome = reply ∨ ∃ error, request.fails error = true ∧ outcome = .error error) :
    Informed settings pid after (view.observe request outcome) := by
  have change := State.serve_changes served
  cases apart : request.transacts with
  | false =>
    obtain ⟨tag,event,phase⟩ := observe_apart apart view outcome
    exact informed.congr (State.serve_same apart served) tag event phase
  | true =>
    cases request with
    | startTransaction =>
      obtain ⟨replied,begun⟩ := State.serve_startTransaction served
      cases outcome with
      | error error => exact informed.broken change
      | ok done =>
        refine informed.moves change ?_ (by simp)
        intro transaction member owner _
        rcases (begun.transactions transaction).mp member with old | rfl
        · exact absurd owner (begun.absent transaction old)
        · exact ⟨rfl,rfl,rfl⟩
    | saveProcessedEvent row =>
      obtain ⟨opened,event⟩ := allowed
      rcases possible with rfl | ⟨error,fails,rfl⟩
      · rcases State.serve_saveProcessedEvent served with ⟨rfl,rfl,_⟩ | ⟨rfl,rfl,transaction,member,holds,records⟩
        · refine informed.writes (State.writes_modify _ _ _ _) (by simp) ?_ (by simp)
          intro old shows
          rw [opened] at shows
          obtain ⟨ledger,messages,outbox⟩ := shows
          exact ⟨by simp [ledger,event],messages,outbox⟩
        · refine informed.moves change (fun _ _ _ _ => trivial) ?_
          intro _
          exact ⟨row.eventId,event,informed.conflict consistent opened member holds records⟩
      · rw [observe_lost fails]
        exact informed.broken change
    | saveMessage row =>
      obtain ⟨message,_,written⟩ := State.serve_saveMessage served
      have recorded : view.phase = .recorded := allowed
      cases outcome with
      | error error => exact informed.broken change
      | ok saved =>
        refine informed.writes written (by simp) ?_ (by simp)
        intro old shows
        rw [recorded] at shows
        obtain ⟨ledger,messages,outbox⟩ := shows
        exact ⟨ledger,by simp [messages],outbox⟩
    | saveOutboxEvent row =>
      obtain ⟨_,rfl⟩ := State.serve_saveOutboxEvent served
      obtain ⟨stored,persisted⟩ := allowed
      cases outcome with
      | error error => exact informed.broken change
      | ok done =>
        refine informed.writes (State.writes_modify _ _ _ _) (by simp) ?_ (by simp)
        intro old shows
        rw [stored] at shows
        obtain ⟨ledger,messages,outbox⟩ := shows
        exact ⟨ledger,messages,by simp [outbox,persisted]⟩
    | commitTransaction =>
      obtain ⟨_,⟨transaction,member,active⟩,rfl⟩ := State.serve_commitTransaction served
      obtain ⟨eventId,event,records,messages,_⟩ := informed.complete allowed member active
      cases outcome with
      | error error => exact informed.broken change
      | ok done =>
        refine informed.moves change (fun _ _ _ _ => trivial) ?_
        intro _
        have written := before.writes_modify pid
          (fun transaction => { transaction with status := .committed }) (fun _ => rfl)
        have committed := (written.transactions { transaction with status := .committed }).mpr
          ⟨transaction,member,(if_pos active).symm⟩
        exact ⟨eventId,event,_,committed,rfl,records,messages⟩
    | rollbackTransaction =>
      obtain rfl := State.serve_rollbackTransaction served
      have same : view.observe .rollbackTransaction outcome = view := by cases outcome <;> rfl
      rw [same]
      exact informed.rolledBack (State.writes_modify _ _ _ _)
    | lifecycle _ | recordAttempt _ | clearAttempts _ | connect | release | newDate | randomUUID | inject
    | getChannel | publish _ _ | waitForConfirms _ | ack | nack _ | count _ => cases apart

theorem Informed.refused (informed : Informed settings pid before view) {request : Request} {error : Thrown}
    (fails : request.fails error) : Informed settings pid before (view.observe request (.error error)) := by
  have records : SameRecords before before := ⟨rfl,rfl,rfl⟩
  cases apart : request.transacts with
  | false =>
    obtain ⟨tag,event,phase⟩ := observe_apart apart view (.error error)
    exact informed.congr records tag event phase
  | true =>
    cases request with
    | startTransaction | saveMessage _ | saveOutboxEvent _ | commitTransaction =>
      exact informed.broken (.same records)
    | saveProcessedEvent row =>
      rw [observe_lost fails]
      exact informed.broken (.same records)
    | rollbackTransaction => exact informed
    | lifecycle _ | recordAttempt _ | clearAttempts _ | connect | release | newDate | randomUUID | inject
    | getChannel | publish _ _ | waitForConfirms _ | ack | nack _ | count _ => cases apart

theorem Grows.carriedBy (grows : Grows before after) {tag : Nat} (known : tag < before.envelopes.length) :
    after.carriedBy settings tag = before.carriedBy settings tag := by
  obtain ⟨added,grown⟩ := grows.envelopes
  exact State.carriedBy_append grown known

theorem Grows.delivers (grows : Grows before after) (other : Nat) (eventId : String)
    (event : before.deliveredEvent settings other = some eventId) :
    after.deliveredEvent settings other = some eventId := by
  obtain ⟨tag,delivered,carried⟩ := Option.bind_eq_some_iff.mp event
  refine Option.bind_eq_some_iff.mpr ⟨tag,by rw [grows.delivered]; exact delivered,?_⟩
  rw [grows.carriedBy (State.lt_of_carriedBy carried)]
  exact carried

theorem Consistent.grows (consistent : Consistent settings fresh before) (grows : Grows before after)
    (same : after.transactions = before.transactions) : Consistent settings fresh after where
  started := same ▸ consistent.started
  unique := same ▸ consistent.unique
  complete transaction member committed :=
    (consistent.complete transaction (same ▸ member) committed).congr grows.delivers

theorem Informed.grows (informed : Informed settings pid before view) (grows : Grows before after)
    (same : after.transactions = before.transactions) : Informed settings pid after view where
  delivered := by rw [grows.delivered]; exact informed.delivered
  known := by
    obtain ⟨added,grown⟩ := grows.envelopes
    rw [grown,List.length_append]
    exact Nat.lt_add_right _ informed.known
  carries := by rw [grows.carriedBy informed.known]; exact informed.carries
  holds := by rw [same]; exact informed.holds
  concluded concluded := by
    obtain ⟨eventId,event,transaction,member,rest⟩ := informed.concluded concluded
    exact ⟨eventId,event,transaction,same ▸ member,rest⟩

theorem State.external_processed {event : External} (happened : before.external event = some after)
    {eventId : String} (processed : before.Processed eventId) : after.Processed eventId := by
  obtain ⟨_,same | ⟨pid,written⟩⟩ := State.external_grows happened
  · obtain ⟨transaction,member,rest⟩ := processed
    exact ⟨transaction,same ▸ member,rest⟩
  · have change : Change pid before after := .writes _ written
    exact change.processed processed

theorem Consistent.external (consistent : Consistent settings fresh before) {event : External}
    (happened : before.external event = some after) : Consistent settings fresh after ∧
      ∀ pid view, Informed settings pid before view → Informed settings pid after view := by
  obtain ⟨grows,same | ⟨pid,written⟩⟩ := State.external_grows happened
  · exact ⟨consistent.grows grows same,fun _ _ informed => informed.grows grows same⟩
  · refine ⟨?_,fun _ _ informed => informed.rolledBack written⟩
    refine consistent.writes written (fun _ _ _ _ recorded => .inl recorded) ?_
    intro old present active committed
    cases committed

theorem Consistent.deliver (consistent : Consistent settings fresh before) {tag : Nat}
    {program : Program Unit} (started : before.deliver settings fresh tag = some (program,after)) :
    Consistent settings (fresh + 1) after ∧
    (∀ body, Informed settings fresh after (.start tag body (before.carriedBy settings tag))) ∧
    ∀ pid, pid < fresh → ∀ view, Informed settings pid before view → Informed settings pid after view := by
  obtain ⟨⟨envelope,found,_⟩,rfl⟩ := State.deliver_eq started
  have known := (List.getElem?_eq_some_iff.mp found).1
  refine ⟨⟨?_,consistent.unique,?_⟩,fun body => ⟨?_,known,rfl,?_,by simp [View.start]⟩,?_⟩
  · intro transaction member
    exact Nat.lt_succ_of_lt (consistent.started transaction member)
  · intro transaction member committed
    obtain ⟨eventId,event,rows⟩ := consistent.complete transaction member committed
    have older := (consistent.started transaction member).ne
    refine ⟨eventId,?_,rows⟩
    simp only [State.deliveredEvent,Function.update_of_ne older]
    exact event
  · simp [View.start]
  · intro transaction member owner _
    exact absurd owner (consistent.started transaction member).ne
  · intro pid older view informed
    refine ⟨?_,informed.known,informed.carries,informed.holds,informed.concluded⟩
    dsimp only
    rw [Function.update_of_ne older.ne]
    exact informed.delivered

/-- No step of any delivery gives an event a second row, or commits a row without its message and its
announcement. -/
theorem Consistent.sound (settings : Settings) : (consumerWorld settings).Sound (discipline settings)
    (fun _ _ => True) anything (Consistent settings) (Informed settings) where
  starts fresh state task program after consistent _ started := by
    obtain ⟨tag⟩ := task
    obtain ⟨kept,informed,others⟩ := consistent.deliver started
    obtain ⟨⟨envelope,_,follows⟩,_⟩ := State.deliver_eq started
    exact ⟨kept,⟨_,informed envelope.body,follows⟩,others⟩
  serves fresh state pid view request answer choice reply after consistent below informed allowed _ _ served := by
    have change := State.serve_changes served
    refine ⟨consistent.serve below informed allowed served,?_,?_⟩
    · intro outcome possible
      have honest := State.serve_honest served (possible.imp_right (fun ⟨error,_,same⟩ => ⟨error,same⟩))
      exact ⟨_,⟨rfl,honest⟩,informed.serve consistent allowed served possible⟩
    · intro other apart view informed
      exact informed.other apart change
  refuses fresh state pid view request error consistent informed allowed fails := by
    exact ⟨_,⟨rfl,by cases request <;> trivial⟩,informed.refused fails⟩
  crashes _ _ _ consistent _ := ⟨consistent,fun _ _ _ informed => informed⟩
  externals _ _ _ _ consistent _ happened := consistent.external happened

theorem Consistent.initial (settings : Settings) : Consistent settings 0 .initial where
  started transaction member := absurd member (Table.not_mem_empty transaction)
  unique transaction member := absurd member (Table.not_mem_empty transaction)
  complete transaction member := absurd member (Table.not_mem_empty transaction)

theorem length_flatMap_ite {Row Item : Type} {rows : List Row} {items : Row → List Item}
    {counts : Row → Bool} (single : ∀ row ∈ rows, (items row).length = if counts row then 1 else 0) :
    (rows.flatMap items).length = (rows.filter counts).length := by
  induction rows with
  | nil => rfl
  | cons row rest ih =>
    have head := single row List.mem_cons_self
    have tail := ih (fun other member => single other (List.mem_cons_of_mem row member))
    rw [List.flatMap_cons,List.length_append,head,tail,List.filter_cons]
    split
    next => exact Nat.add_comm 1 _
    next => exact Nat.zero_add _

theorem length_flatMap_one {Row Item : Type} {rows : List Row} {items : Row → List Item}
    (single : ∀ row ∈ rows, (items row).length = 1) : (rows.flatMap items).length = rows.length := by
  have counted := @length_flatMap_ite Row Item rows items (fun _ => true) single
  rwa [List.filter_true] at counted

namespace Consistent

variable {state : State}

theorem mem_committed {transaction : Transaction} : transaction ∈ state.committed ↔
    transaction ∈ state.transactions ∧ transaction.status = .committed := by
  simp [State.committed,Table.mem_rows]

theorem mem_committedFor {eventId : String} {transaction : Transaction} :
    transaction ∈ state.committedFor settings eventId ↔ transaction ∈ state.committed ∧
      state.deliveredEvent settings transaction.pid = some eventId := by
  simp [State.committedFor]

/-- Each of the three tables has one row of an event for each committed delivery of it. -/
theorem counts (consistent : Consistent settings fresh state) (eventId : String) :
    (state.processedEvents eventId).length = (state.committedFor settings eventId).length ∧
    (state.messagesFor settings eventId).length = (state.committedFor settings eventId).length ∧
    (state.persistedFor settings eventId).length = (state.committedFor settings eventId).length := by
  refine ⟨?_,?_,?_⟩
  · rw [State.processedEvents,List.filter_flatMap,State.committedFor]
    refine length_flatMap_ite ?_
    intro transaction member
    obtain ⟨present,status⟩ := mem_committed.mp member
    obtain ⟨event,delivered,ledger,_⟩ := consistent.complete transaction present status
    have length := congrArg (fun ids => (ids.filter (fun id => id == eventId)).length) ledger
    rw [List.filter_map,List.length_map] at length
    rw [delivered]
    refine length.trans ?_
    by_cases same : event = eventId <;> simp [same]
  · refine length_flatMap_one ?_
    intro transaction member
    obtain ⟨present,status⟩ := mem_committed.mp (mem_committedFor.mp member).1
    obtain ⟨_,_,_,messages,_⟩ := consistent.complete transaction present status
    exact messages
  · rw [State.persistedFor,List.filter_flatMap]
    refine length_flatMap_one ?_
    intro transaction member
    obtain ⟨present,status⟩ := mem_committed.mp (mem_committedFor.mp member).1
    obtain ⟨_,_,_,_,outbox⟩ := consistent.complete transaction present status
    have length := congrArg (fun types => (types.filter (fun type => type == "MessagePersisted")).length) outbox
    rw [List.filter_map,List.length_map] at length
    exact length

theorem records_of_committedFor (consistent : Consistent settings fresh state) {eventId : String}
    {transaction : Transaction} (member : transaction ∈ state.committedFor settings eventId) :
    transaction ∈ state.transactions ∧ transaction.status = .committed ∧
      transaction.records eventId = true := by
  obtain ⟨committed,delivered⟩ := mem_committedFor.mp member
  obtain ⟨present,status⟩ := mem_committed.mp committed
  obtain ⟨event,same,ledger,_⟩ := consistent.complete transaction present status
  obtain rfl := Option.some.inj (same.symm.trans delivered)
  have among : event ∈ transaction.ledger.map IdempotencyInput.eventId := by simp [ledger]
  refine ⟨present,status,?_⟩
  simpa [Transaction.records] using among

theorem atMostOnce (consistent : Consistent settings fresh state) (eventId : String) :
    (state.committedFor settings eventId).length ≤ 1 := by
  have distinct : (state.committedFor settings eventId).Nodup :=
    (List.Nodup.of_map _ state.transactions.distinct).sublist
      (List.filter_sublist.trans List.filter_sublist)
  have equal : ∀ left ∈ state.committedFor settings eventId,
      ∀ right ∈ state.committedFor settings eventId, left = right := by
    intro left first right second
    obtain ⟨present,status,records⟩ := consistent.records_of_committedFor first
    obtain ⟨present',status',records'⟩ := consistent.records_of_committedFor second
    exact consistent.unique left present right present' (by simp [status]) (by simp [status'])
      eventId records records'
  match rows : state.committedFor settings eventId with
  | [] => exact Nat.zero_le 1
  | [_] => exact Nat.le_refl 1
  | left :: right :: rest =>
    rw [rows] at distinct equal
    have same := equal left List.mem_cons_self right (List.mem_cons_of_mem left List.mem_cons_self)
    rw [same] at distinct
    exact absurd List.mem_cons_self (List.nodup_cons.mp distinct).1

theorem once_of_processed (consistent : Consistent settings fresh state) {eventId : String}
    (processed : state.Processed eventId) : (state.processedEvents eventId).length = 1 := by
  obtain ⟨transaction,present,status,records,_⟩ := processed
  obtain ⟨row,member,same⟩ := List.any_eq_true.mp records
  have found : row ∈ state.processedEvents eventId :=
    List.mem_filter.mpr ⟨List.mem_flatMap.mpr ⟨transaction,mem_committed.mpr ⟨present,status⟩,member⟩,same⟩
  have positive := List.length_pos_of_mem found
  have most := consistent.atMostOnce eventId
  rw [← (consistent.counts eventId).1] at most
  omega

end Consistent

/-- Whatever is delivered and redelivered, and whatever fails, an event is processed at most once,
in the ledger, the messages and the outbox alike, and a delivery is told that it is a duplicate
only after the event has been processed. -/
theorem events_processed_exactly_once (settings : Settings) {pool : ConsumerPool}
    (reached : (consumerWorld settings).Reach anything .initial pool) :
    (∀ eventId,
      (pool.shared.processedEvents eventId).length = (pool.shared.messagesFor settings eventId).length ∧
      (pool.shared.messagesFor settings eventId).length =
        (pool.shared.persistedFor settings eventId).length ∧
      (pool.shared.processedEvents eventId).length ≤ 1) ∧
    ∀ pid eventType next,
      pool.program pid = some (.await (.count (.messagesProcessed eventType .duplicate)) next) →
      ∃ eventId, pool.shared.deliveredEvent settings pid = some eventId ∧
        (pool.shared.processedEvents eventId).length = 1 := by
  obtain ⟨consistent,views⟩ := World.reach_coherent (Consistent.sound settings)
    (Consistent.initial settings) reached
  refine ⟨?_,?_⟩
  · intro eventId
    obtain ⟨ledger,messages,persisted⟩ := consistent.counts eventId
    exact ⟨ledger.trans messages.symm,messages.trans persisted.symm,ledger ▸ consistent.atMostOnce eventId⟩
  · intro pid eventType next running
    obtain ⟨_,view,informed,follows⟩ := views pid _ running
    have duplicate : view.phase = .duplicate := follows.1
    obtain ⟨eventId,event,processed⟩ := informed.concluded (.inr duplicate)
    refine ⟨eventId,?_,consistent.once_of_processed processed⟩
    simp [State.deliveredEvent,informed.delivered,informed.carries,event]

def sampleSettings : Settings := ⟨sampleEngine,sampleLibrary⟩

def sampleRun (actions : List ConsumerAction) : Option ConsumerPool :=
  Machine.run (consumerWorld sampleSettings).step (World.empty .initial) actions

/-- The first delivery of the sample event commits; a relay duplicate of it runs into the row. -/
def duplicateDelivery : List ConsumerAction :=
  [.external (.enqueue sampleDelivery.content sampleDelivery.headers),
    .external (.enqueue sampleDelivery.content sampleDelivery.headers),
    .start (.deliver 0),.start (.deliver 1)] ++
  List.replicate 12 (.resume 0 (.served {})) ++ List.replicate 8 (.resume 1 (.served {}))

set_option maxRecDepth 4000 in
theorem duplicate_delivery_processed_once : ∃ pool eventType next, sampleRun duplicateDelivery = some pool ∧
    pool.program 1 = some (.await (.count (.messagesProcessed eventType .duplicate)) next) ∧
    (∀ eventId,
      (pool.shared.processedEvents eventId).length = (pool.shared.messagesFor sampleSettings eventId).length ∧
      (pool.shared.messagesFor sampleSettings eventId).length =
        (pool.shared.persistedFor sampleSettings eventId).length ∧
      (pool.shared.processedEvents eventId).length ≤ 1) ∧
    ∃ eventId, pool.shared.deliveredEvent sampleSettings 1 = some eventId ∧
      (pool.shared.processedEvents eventId).length = 1 := by
  let pool := (sampleRun duplicateDelivery).get (by decide)
  have ran : sampleRun duplicateDelivery = some pool := (Option.some_get _).symm
  have reached : (consumerWorld sampleSettings).Reach anything .initial pool :=
    Machine.run_reaches ran (by decide)
  obtain ⟨counted,told⟩ := events_processed_exactly_once sampleSettings reached
  exact ⟨pool,_,_,ran,rfl,counted,told 1 _ _ rfl⟩

end MessagingPlatform.Consumer

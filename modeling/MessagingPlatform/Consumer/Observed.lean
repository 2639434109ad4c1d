import MessagingPlatform.Consumer.Accounting
import MessagingPlatform.Consumer.Stages

/-! The lifecycle records of a run in the order in which they are published. Each of them is the
record that its message makes, those of one delivery come in the order of the stages, and there is
one `persisted` record of an event at most, published by the delivery that committed it. -/
namespace MessagingPlatform.Consumer

abbrev Observations := List (Nat × LifecycleRecord)

namespace Observations

def note (observations : Observations) (_ : State) : Effect Request Choice External Task → Observations
  | .performs pid (.lifecycle record) _ => observations ++ [(pid,record)]
  | _ => observations

def stagesOf (observations : Observations) (pid : Nat) : List LifecycleStage :=
  (observations.filter (fun entry => entry.1 == pid)).map (fun entry => entry.2.stage)

def persisted (observations : Observations) (eventId : String) : Observations :=
  observations.filter (fun entry => entry.2.stage == .persisted && entry.2.eventId == eventId)

end Observations

def observedWorld (settings : Settings) :
    World (State × Observations) Thrown Request Reply Choice External Task :=
  (consumerWorld settings).withGhost Observations.note

abbrev ObservedPool := Pool (State × Observations) Thrown Request Reply

namespace State

variable (settings : Settings) (state : State)

def announcement (pid : Nat) (stage : LifecycleStage) : Option LifecycleRecord :=
  (state.delivered pid).bind (fun tag => state.envelopes[tag]?.bind (fun envelope =>
    Consumer.announcement settings envelope.body envelope.headers stage))

def Conveys (pid : Nat) : Prop := state.announcement settings pid .received ≠ none

def Committed (pid : Nat) : Prop :=
  ∃ transaction ∈ state.transactions, transaction.pid = pid ∧ transaction.status = .committed

end State

variable {settings : Settings} {fresh pid : Nat} {observations : Observations} {before after state : State}

theorem Observations.stagesOf_append (pid other : Nat) (record : LifecycleRecord) :
    Observations.stagesOf (observations ++ [(pid,record)]) other =
      observations.stagesOf other ++ if pid = other then [record.stage] else [] := by
  by_cases same : pid = other <;> simp [Observations.stagesOf,List.filter_append,same]

def Request.told? (pid : Nat) : Request → Observations
  | .lifecycle record => [(pid,record)]
  | _ => []

theorem note_performs {request : Request} {choice : Choice} :
    observations.note state (.performs pid request choice) = observations ++ request.told? pid := by
  cases request <;> first | rfl | exact (List.append_nil _).symm

theorem Grows.announcement (grows : Grows before after) {tag : Nat} (delivered : before.delivered pid = some tag)
    (known : tag < before.envelopes.length) :
    after.announcement settings pid = before.announcement settings pid := by
  obtain ⟨added,grown⟩ := grows.envelopes
  funext stage
  simp only [State.announcement,grows.delivered,delivered,Option.bind_some,grown,
    List.getElem?_append_left known]

/-- A record that a delivery has is not lost to messages that arrive later. -/
theorem Grows.announces (grows : Grows before after) {stage : LifecycleStage} {record : LifecycleRecord}
    (announced : before.announcement settings pid stage = some record) :
    after.announcement settings pid stage = some record := by
  obtain ⟨tag,delivered,found⟩ := Option.bind_eq_some_iff.mp announced
  obtain ⟨envelope,present,_⟩ := Option.bind_eq_some_iff.mp found
  rw [grows.announcement delivered (List.getElem?_eq_some_iff.mp present).1]
  exact announced

theorem Grows.conveys (grows : Grows before after) (conveys : before.Conveys settings pid) :
    after.Conveys settings pid := by
  obtain ⟨record,announced⟩ := Option.ne_none_iff_exists'.mp conveys
  rw [State.Conveys,grows.announces announced]
  exact Option.some_ne_none record

theorem Change.grows (change : Change pid before after) : Grows before after :=
  ⟨change.delivered,[],by rw [List.append_nil]; exact change.envelopes⟩

theorem Change.commits (change : Change pid before after) {other : Nat} (committed : before.Committed other) :
    after.Committed other := by
  obtain ⟨transaction,member,owner,status⟩ := committed
  have settled : transaction.activeOf pid = false := by simp [Transaction.activeOf,status]
  exact ⟨transaction,change.keeps member settled,owner,status⟩

/-- The owners of transactions are those of before, and the delivery that has begun one. -/
theorem Change.owners (change : Change pid before after) {transaction : Transaction}
    (member : transaction ∈ after.transactions) :
    transaction.pid = pid ∨ ∃ old ∈ before.transactions, old.pid = transaction.pid := by
  by_cases own : transaction.pid = pid
  · exact .inl own
  · exact .inr ⟨transaction,change.other member own,rfl⟩

/-- What is published is true of the state that it is published in, and of all later ones. -/
structure Observed (settings : Settings) (fresh : Nat) (observations : Observations) (state : State) : Prop where
  started : ∀ entry ∈ observations, entry.1 < fresh
  ordered : ∀ pid, LifecycleStage.Ordered (observations.stagesOf pid)
  announced : ∀ pid record, (pid,record) ∈ observations →
    state.announcement settings pid record.stage = some record
  committed : ∀ pid record, (pid,record) ∈ observations → record.stage = .persisted → state.Committed pid
  transacting : ∀ transaction ∈ state.transactions, state.Conveys settings transaction.pid
  retrying : ∀ pid ∈ state.publishes.map RetryPublish.publisher, pid < fresh ∧ state.Conveys settings pid

structure Watching (settings : Settings) (pid : Nat) (state : State × Observations) (views : View × Telling) :
    Prop where
  informed : Informed settings pid state.1 views.1
  announces : views.2.announces = state.1.announcement settings pid
  told : views.2.cut = false → Observations.stagesOf state.2 pid = views.2.told
  committed : views.2.committed = true → state.1.Committed pid

namespace Observed

theorem grows (observed : Observed settings fresh observations before) (grows : Grows before after)
    (commits : ∀ pid, before.Committed pid → after.Committed pid)
    (owners : ∀ transaction ∈ after.transactions, ∃ old ∈ before.transactions, old.pid = transaction.pid)
    (publishers : after.publishes.map RetryPublish.publisher = before.publishes.map RetryPublish.publisher) :
    Observed settings fresh observations after where
  started := observed.started
  ordered := observed.ordered
  announced pid record member := grows.announces (observed.announced pid record member)
  committed pid record member persisted := commits pid (observed.committed pid record member persisted)
  transacting transaction member := by
    obtain ⟨old,present,same⟩ := owners transaction member
    exact same ▸ grows.conveys (observed.transacting old present)
  retrying pid member := by
    rw [publishers] at member
    exact (observed.retrying pid member).imp_right grows.conveys

theorem serve (observed : Observed settings fresh observations before) (below : pid < fresh)
    {views : View × Telling} (watching : Watching settings pid (before,observations) views) {request : Request}
    {choice : Choice} {reply : Except Thrown (Reply request)} (allowed : staging.allows views.2 request)
    (served : before.serve pid request choice = some (reply,after)) :
    Observed settings fresh (observations ++ request.told? pid) after := by
  have change := State.serve_changes served
  have grows := change.grows
  have own : request.needsEvent = true → before.Conveys settings pid := by
    intro needs
    unfold State.Conveys
    rw [← watching.announces]
    exact allows_carries needs allowed
  have added : ∀ entry ∈ request.told? pid, ∃ record, entry = (pid,record) ∧ request = .lifecycle record := by
    intro entry member
    cases request with
    | lifecycle record => exact ⟨record,List.mem_singleton.mp member,rfl⟩
    | _ => cases member
  refine ⟨?_,?_,?_,?_,?_,?_⟩
  · intro entry member
    rcases List.mem_append.mp member with old | new
    · exact observed.started entry old
    · obtain ⟨record,rfl,_⟩ := added entry new
      exact below
  · intro other
    cases request with
    | lifecycle record =>
      obtain ⟨uncut,_,ordered,_⟩ := allowed
      change LifecycleStage.Ordered (Observations.stagesOf (observations ++ [(pid,record)]) other)
      rw [Observations.stagesOf_append]
      by_cases same : pid = other
      · subst same
        rw [if_pos rfl,watching.told uncut]
        exact ordered
      · rw [if_neg same,List.append_nil]
        exact observed.ordered other
    | _ => exact (List.append_nil observations).symm ▸ observed.ordered other
  · intro other record member
    apply grows.announces
    rcases List.mem_append.mp member with old | new
    · exact observed.announced other record old
    · obtain ⟨_,same,rfl⟩ := added _ new
      obtain ⟨rfl,rfl⟩ := Prod.mk.inj same
      rw [← watching.announces]
      exact allowed.2.1
  · intro other record member persisted
    apply change.commits
    rcases List.mem_append.mp member with old | new
    · exact observed.committed other record old persisted
    · obtain ⟨_,same,rfl⟩ := added _ new
      obtain ⟨rfl,rfl⟩ := Prod.mk.inj same
      exact watching.committed (allowed.2.2.2 persisted)
  · intro transaction member
    apply grows.conveys
    cases apart : request.transacts with
    | false =>
      rw [(State.serve_same apart served).transactions] at member
      exact observed.transacting transaction member
    | true =>
      rcases change.owners member with same | ⟨old,present,same⟩
      · exact same ▸ own (by cases request <;> first | rfl | cases apart)
      · exact same ▸ observed.transacting old present
  · intro other member
    rw [(State.serve_noted served).2] at member
    rcases List.mem_append.mp member with old | new
    · exact (observed.retrying other old).imp_right grows.conveys
    · obtain ⟨noted,present,scheduled⟩ := List.mem_filterMap.mp new
      have found := Option.mem_toList.mp present
      cases request with
      | publish channel publication =>
        obtain rfl := Option.some.inj found
        obtain rfl := Option.some.inj scheduled
        exact ⟨below,grows.conveys (own rfl)⟩
      | nack requeue => cases requeue <;> obtain rfl := Option.some.inj found <;> cases scheduled
      | count metric =>
        cases metric with
        | messagesFailed _ _ =>
          obtain rfl := Option.some.inj found
          cases scheduled
        | messagesProcessed _ _ | retryCount _ => cases found
      | recordAttempt _ | clearAttempts _ =>
        obtain rfl := Option.some.inj found
        cases scheduled
      | _ => cases found

end Observed

namespace Watching

variable {views : View × Telling}

theorem serve (watching : Watching settings pid (before,observations) views) {request : Request}
    {choice : Choice} {reply outcome : Except Thrown (Reply request)} {next : View}
    (allowed : staging.allows views.2 request) (informed : Informed settings pid after next)
    (served : before.serve pid request choice = some (reply,after))
    (possible : outcome = reply ∨ ∃ error, outcome = .error error) :
    Watching settings pid (after,observations ++ request.told? pid) (next,views.2.observe request outcome) := by
  have change := State.serve_changes served
  have announces : views.2.announces = after.announcement settings pid :=
    watching.announces.trans
      (change.grows.announcement watching.informed.delivered watching.informed.known).symm
  have kept : views.2.committed = true → after.Committed pid :=
    fun committed => change.commits (watching.committed committed)
  cases request with
  | lifecycle record =>
    cases outcome with
    | error error =>
      refine ⟨informed,announces,?_,kept⟩
      intro uncut
      cases uncut
    | ok done =>
      refine ⟨informed,announces,?_,kept⟩
      intro uncut
      change Observations.stagesOf (observations ++ [(pid,record)]) pid = _
      rw [Observations.stagesOf_append,if_pos rfl,watching.told uncut]
      rfl
  | commitTransaction =>
    have told := (List.append_nil observations).symm ▸ watching.told
    cases outcome with
    | error error => exact ⟨informed,announces,told,kept⟩
    | ok done =>
      refine ⟨informed,announces,told,?_⟩
      intro _
      obtain ⟨_,⟨transaction,member,active⟩,rfl⟩ := State.serve_commitTransaction served
      have written := before.writes_modify pid (fun transaction => { transaction with status := .committed })
        (fun _ => rfl)
      exact ⟨_,(written.transactions _).mpr ⟨transaction,member,rfl⟩,by
        rw [if_pos active]
        exact ⟨(Transaction.activeOf_iff.mp active).1,rfl⟩⟩
  | _ =>
    have told := (List.append_nil observations).symm ▸ watching.told
    have same := observe_untold rfl views.2 outcome
    rw [same]
    exact ⟨informed,announces,told,kept⟩

theorem refused (watching : Watching settings pid (state,observations) views) {request : Request} {next : View}
    (error : Thrown) (informed : Informed settings pid state next) :
    Watching settings pid (state,observations) (next,views.2.observe request (.error error)) := by
  cases request with
  | lifecycle record =>
    refine ⟨informed,watching.announces,?_,watching.committed⟩
    intro uncut
    cases uncut
  | _ => exact ⟨informed,watching.announces,watching.told,watching.committed⟩

theorem other (watching : Watching settings pid (before,observations) views) {next : Observations}
    (informed : Informed settings pid after views.1) (grows : Grows before after)
    (commits : before.Committed pid → after.Committed pid)
    (same : Observations.stagesOf next pid = Observations.stagesOf observations pid) :
    Watching settings pid (after,next) views where
  informed := informed
  announces := watching.announces.trans
    (grows.announcement watching.informed.delivered watching.informed.known).symm
  told uncut := same.trans (watching.told uncut)
  committed committed := commits (watching.committed committed)

end Watching

theorem stagesOf_told {request : Request} {other : Nat} (apart : other ≠ pid) :
    Observations.stagesOf (observations ++ request.told? pid) other = observations.stagesOf other := by
  cases request with
  | lifecycle record =>
    change Observations.stagesOf (observations ++ [(pid,record)]) other = _
    rw [Observations.stagesOf_append,if_neg (Ne.symm apart),List.append_nil]
  | _ => exact congrArg (Observations.stagesOf · other) (List.append_nil observations)

theorem State.deliver_announcement {tag : Nat} {program : Program Unit}
    (started : before.deliver settings fresh tag = some (program,after)) (older : pid < fresh) :
    after.announcement settings pid = before.announcement settings pid := by
  obtain ⟨_,rfl⟩ := deliver_program started
  funext stage
  simp only [announcement,Function.update_of_ne older.ne]
  rfl

theorem State.deliver_staged {tag : Nat} {program : Program Unit}
    (started : before.deliver settings fresh tag = some (program,after)) :
    staging.Follows program (.start (after.announcement settings fresh)) (fun _ _ => True) := by
  obtain ⟨⟨envelope,data,found,dispatched,rfl⟩,rfl⟩ := deliver_program started
  have announces : State.announcement settings { before.replace (readyIn Queues.work tag)
      (fun copy => [{ copy with unackedBy := some fresh }]) with
        delivered := Function.update before.delivered fresh (some tag) } fresh =
      Consumer.announcement settings envelope.body envelope.headers := by
    funext stage
    have present : (before.replace (readyIn Queues.work tag)
        (fun copy => [{ copy with unackedBy := some fresh }])).envelopes[tag]? = some envelope := found
    simp only [announcement,Function.update_self,Option.bind_some,present]
  rw [announces]
  exact handleMessage_staged dispatched

theorem Observed.deliver (observed : Observed settings fresh observations before)
    (consistent : Consistent settings fresh before) {tag : Nat} {program : Program Unit}
    (started : before.deliver settings fresh tag = some (program,after)) :
    Observed settings (fresh + 1) observations after := by
  have announcement := @State.deliver_announcement settings fresh
  have shape := (State.deliver_program started).2
  have same : after.transactions = before.transactions := by rw [shape]; rfl
  have publishes : after.publishes = before.publishes := by rw [shape]; rfl
  have conveys : ∀ pid, pid < fresh → before.Conveys settings pid → after.Conveys settings pid := by
    intro pid older conveys
    unfold State.Conveys
    rw [announcement started older]
    exact conveys
  constructor
  · intro entry member
    exact Nat.lt_succ_of_lt (observed.started entry member)
  · exact observed.ordered
  · intro pid record member
    rw [announcement started (observed.started _ member)]
    exact observed.announced pid record member
  · intro pid record member persisted
    obtain ⟨transaction,present,committed⟩ := observed.committed pid record member persisted
    exact ⟨transaction,same ▸ present,committed⟩
  · intro transaction member
    rw [same] at member
    exact conveys _ (consistent.started transaction member) (observed.transacting transaction member)
  · intro pid member
    rw [publishes] at member
    obtain ⟨older,carried⟩ := observed.retrying pid member
    exact ⟨Nat.lt_succ_of_lt older,conveys pid older carried⟩

theorem Observed.external (observed : Observed settings fresh observations before) {event : External}
    (happened : before.external event = some after) : Observed settings fresh observations after ∧
      ∀ pid, before.Committed pid → after.Committed pid := by
  obtain ⟨grows,records⟩ := State.external_grows happened
  have publishers := (State.external_noted happened).2
  rcases records with same | ⟨pid,written⟩
  · have commits : ∀ pid, before.Committed pid → after.Committed pid := by
      intro pid committed
      obtain ⟨transaction,member,rest⟩ := committed
      exact ⟨transaction,same ▸ member,rest⟩
    refine ⟨observed.grows grows commits ?_ publishers,commits⟩
    intro transaction member
    exact ⟨transaction,same ▸ member,rfl⟩
  · have change : Change pid before after := .writes _ written
    refine ⟨observed.grows grows (fun _ => change.commits) ?_ publishers,fun _ => change.commits⟩
    intro transaction member
    obtain ⟨old,present,same⟩ := (written.transactions transaction).mp member
    refine ⟨old,present,?_⟩
    rw [same]
    split
    next => exact (written.keepsPid old).symm
    next => rfl

/-- What a delivery publishes is true when it publishes it, and no later step makes it false. -/
theorem Observed.sound (settings : Settings) : (observedWorld settings).Sound ((discipline settings).prod staging)
    (fun _ _ => True ∧ True) (World.Unghosted anything)
    (fun fresh state => Consistent settings fresh state.1 ∧ Observed settings fresh state.2 state.1)
    (Watching settings) where
  starts fresh state task program after holds _ started := by
    obtain ⟨consistent,observed⟩ := holds
    obtain ⟨⟨other,next⟩,launched,same⟩ := Option.map_eq_some_iff.mp started
    obtain ⟨rfl,rfl⟩ := Prod.mk.inj same
    obtain ⟨tag⟩ := task
    obtain ⟨begun,informed,others⟩ := consistent.deliver launched
    obtain ⟨⟨envelope,_,follows⟩,shape⟩ := State.deliver_eq launched
    refine ⟨⟨begun,observed.deliver consistent launched⟩,?_,?_⟩
    · have silent : Observations.stagesOf state.2 fresh = [] := by
        apply List.map_eq_nil_iff.mpr
        apply List.filter_eq_nil_iff.mpr
        intro entry member own
        exact absurd (observed.started entry member) (by simp [eq_of_beq own])
      exact ⟨(_,.start _),⟨informed envelope.body,rfl,fun _ => silent,fun impossible => by cases impossible⟩,
        follows.prod (State.deliver_staged launched)⟩
    · intro pid older views watching
      refine ⟨others pid older views.1 watching.informed,?_,watching.told,?_⟩
      · exact watching.announces.trans (State.deliver_announcement launched older).symm
      · intro committed
        obtain ⟨transaction,member,rest⟩ := watching.committed committed
        have same : next.transactions = state.1.transactions := by rw [shape]; rfl
        exact ⟨transaction,same ▸ member,rest⟩
  serves fresh state pid views request answer choice reply after holds below watching allowed _ chosen served := by
    obtain ⟨consistent,observed⟩ := holds
    obtain ⟨performed,noted⟩ := World.withGhost_serve served
    have history : after.2 = state.2 ++ request.told? pid := noted.trans note_performs
    obtain ⟨begun,outcomes,others⟩ := (Consistent.sound settings).serves fresh state.1 pid views.1 request answer
      choice reply after.1 consistent below watching.informed allowed.1 trivial chosen performed
    have change := State.serve_changes performed
    refine ⟨⟨begun,?_⟩,?_,?_⟩
    · rw [history]
      exact observed.serve below watching allowed.2 performed
    · intro outcome possible
      obtain ⟨next,moved,informed⟩ := outcomes outcome possible
      refine ⟨(next,views.2.observe request outcome),⟨moved,rfl⟩,?_⟩
      obtain ⟨final,observations⟩ := after
      obtain rfl : observations = _ := history
      exact watching.serve allowed.2 informed performed (possible.imp_right (fun ⟨error,_,lost⟩ => ⟨error,lost⟩))
    · intro other apart views watching
      obtain ⟨final,observations⟩ := after
      obtain rfl : observations = _ := history
      exact watching.other (others other apart views.1 watching.informed) change.grows change.commits
        (stagesOf_told apart)
  refuses fresh state pid views request error holds watching allowed fails := by
    obtain ⟨next,moved,informed⟩ := (Consistent.sound settings).refuses fresh state.1 pid views.1 request error
      holds.1 watching.informed allowed.1 fails
    exact ⟨(next,views.2.observe request (.error error)),⟨moved,rfl⟩,watching.refused error informed⟩
  crashes _ _ _ holds _ := ⟨holds,fun _ _ _ watching => watching⟩
  externals fresh state event after holds _ happened := by
    obtain ⟨consistent,observed⟩ := holds
    obtain ⟨next,performed,rfl⟩ := Option.map_eq_some_iff.mp happened
    obtain ⟨begun,others⟩ := consistent.external performed
    obtain ⟨kept,commits⟩ := observed.external performed
    refine ⟨⟨begun,kept⟩,?_⟩
    intro pid views watching
    exact watching.other (others pid views.1 watching.informed) (State.external_grows performed).1 (commits pid) rfl

theorem State.announcement_event {stage : LifecycleStage} {record : LifecycleRecord}
    (announced : state.announcement settings pid stage = some record) (other : stage ≠ .rejected) :
    state.deliveredEvent settings pid = some record.eventId := by
  obtain ⟨tag,delivered,found⟩ := Option.bind_eq_some_iff.mp announced
  obtain ⟨envelope,present,announced⟩ := Option.bind_eq_some_iff.mp found
  rw [deliveredEvent,delivered,Option.bind_some,carriedBy_found present]
  exact Consumer.announcement_event announced other

namespace Observed

theorem persisted_distinct (observed : Observed settings fresh observations state) (eventId : String) :
    ((observations.persisted eventId).map Prod.fst).Nodup := by
  rw [List.nodup_iff_count_le_one]
  intro pid
  have once : (observations.stagesOf pid).count .persisted ≤ 1 := by
    rcases observed.ordered pid with within | within
    · exact within.sublist.count_le .persisted
    · exact (within.sublist.count_le .persisted).trans (Nat.zero_le 1)
  refine le_trans ?_ once
  rw [List.count,List.countP_map,Observations.persisted,List.countP_filter,Observations.stagesOf,List.count,
    List.countP_map,List.countP_filter]
  apply List.countP_mono_left
  intro entry _ found
  simp only [Function.comp_apply,Bool.and_eq_true] at found ⊢
  exact ⟨found.2.1,found.1⟩

theorem persisted_by (observed : Observed settings fresh observations state) {eventId : String}
    {entry : Nat × LifecycleRecord} (member : entry ∈ observations.persisted eventId) :
    ∃ transaction ∈ state.committedFor settings eventId, transaction.pid = entry.1 := by
  obtain ⟨pid,record⟩ := entry
  obtain ⟨present,found⟩ := List.mem_filter.mp member
  simp only [Bool.and_eq_true,beq_iff_eq] at found
  obtain ⟨persisted,rfl⟩ := found
  obtain ⟨transaction,among,rfl,status⟩ := observed.committed pid record present persisted
  refine ⟨transaction,Consistent.mem_committedFor.mpr ⟨Consistent.mem_committed.mpr ⟨among,status⟩,?_⟩,rfl⟩
  apply State.announcement_event (observed.announced _ record present)
  rw [persisted]
  decide

theorem persisted_le (observed : Observed settings fresh observations state)
    (consistent : Consistent settings fresh state) (eventId : String) :
    (observations.persisted eventId).length ≤ (state.processedEvents eventId).length := by
  rw [(consistent.counts eventId).1,← List.length_map Prod.fst,
    ← @List.length_map _ _ (state.committedFor settings eventId) Transaction.pid]
  apply List.Nodup.length_le_of_subset (observed.persisted_distinct eventId)
  intro pid among
  obtain ⟨entry,member,rfl⟩ := List.mem_map.mp among
  obtain ⟨transaction,present,same⟩ := observed.persisted_by member
  exact List.mem_map.mpr ⟨transaction,present,same⟩

end Observed

theorem Observed.initial (settings : Settings) : Observed settings 0 [] .initial where
  started _ member := by cases member
  ordered _ := .inl (List.nil_prefix)
  announced _ _ member := by cases member
  committed _ _ member := by cases member
  transacting transaction member := absurd member (Table.not_mem_empty transaction)
  retrying _ member := by cases member

/-- Each lifecycle record is the one that the published message makes, the records of a delivery
come in the order of the stages, and `persisted` is published once at most for an event, by the
delivery whose transaction stands in the ledger. -/
theorem lifecycle_records_true (settings : Settings) {pool : ObservedPool}
    (reached : (observedWorld settings).Reach (World.Unghosted anything) (.initial,[]) pool) :
    (∀ pid record, (pid,record) ∈ pool.shared.2 →
      pool.shared.1.announcement settings pid record.stage = some record) ∧
    (∀ pid, LifecycleStage.Ordered (Observations.stagesOf pool.shared.2 pid)) ∧
    ∀ eventId, (Observations.persisted pool.shared.2 eventId).length ≤
        (pool.shared.1.processedEvents eventId).length ∧
      (pool.shared.1.processedEvents eventId).length ≤ 1 ∧
      ∀ entry ∈ Observations.persisted pool.shared.2 eventId,
        ∃ transaction ∈ pool.shared.1.committedFor settings eventId, transaction.pid = entry.1 := by
  obtain ⟨consistent,observed⟩ := World.reach_inv (Observed.sound settings)
    ⟨Consistent.initial settings,Observed.initial settings⟩ reached
  refine ⟨observed.announced,observed.ordered,?_⟩
  intro eventId
  have once := consistent.atMostOnce eventId
  rw [← (consistent.counts eventId).1] at once
  exact ⟨observed.persisted_le consistent eventId,once,fun _ => observed.persisted_by⟩

/-- The first delivery goes on to publish `persisted`; the second has found its duplicate. -/
def observedDeliveries : List ConsumerAction := duplicateDelivery ++ List.replicate 3 (.resume 0 (.served {}))

set_option maxRecDepth 4000 in
theorem duplicate_delivery_persisted_once : ∃ pool : ObservedPool,
    Machine.run (observedWorld sampleSettings).step (World.empty (.initial,[])) observedDeliveries = some pool ∧
    Observations.stagesOf pool.shared.2 0 = [.received,.validated,.persisted] ∧
    Observations.stagesOf pool.shared.2 1 = [.received,.validated] ∧
    (∀ pid record, (pid,record) ∈ pool.shared.2 →
      pool.shared.1.announcement sampleSettings pid record.stage = some record) ∧
    ∀ eventId, (Observations.persisted pool.shared.2 eventId).length ≤
      (pool.shared.1.processedEvents eventId).length := by
  let ended := Machine.run (observedWorld sampleSettings).step (World.empty (.initial,[])) observedDeliveries
  let pool := ended.get (by decide)
  have ran : ended = some pool := (Option.some_get _).symm
  have reached : (observedWorld sampleSettings).Reach (World.Unghosted anything) (.initial,[]) pool :=
    Machine.run_reaches ran (by decide)
  obtain ⟨announced,_,persisted⟩ := lifecycle_records_true sampleSettings reached
  exact ⟨pool,ran,by decide,by decide,announced,fun eventId => (persisted eventId).1⟩

/-- A message that is no valid event leaves the database and the broker alone: its delivery asks for
nothing but the count of the failure, its rejection and the ack. -/
theorem invalid_messages_leave_no_trace (settings : Settings) {pool : ConsumerPool}
    (reached : (consumerWorld settings).Reach anything .initial pool) {pid tag : Nat}
    (delivered : pool.shared.delivered pid = some tag) (invalid : pool.shared.carriedBy settings tag = none) :
    (∀ transaction ∈ pool.shared.transactions, transaction.pid ≠ pid) ∧
    (∀ published ∈ pool.shared.publishes, published.publisher ≠ pid) ∧
    ∀ request next, pool.program pid = some (.await request next) → ∃ rejection,
      pool.shared.announcement settings pid .rejected = some rejection ∧ request ∈ rejection.rejecting := by
  obtain ⟨haunted,rfl,observing⟩ := @World.Reach.haunt _ _ _ _ _ _ _ _ _ Observations.note _ _ [] _ reached
  have eventless : ∀ stage, stage ≠ .rejected → haunted.shared.1.announcement settings pid stage = none := by
    intro stage other
    by_contra announced
    obtain ⟨record,announced⟩ := Option.ne_none_iff_exists'.mp announced
    have event := State.announcement_event announced other
    have delivered : haunted.shared.1.delivered pid = some tag := delivered
    rw [State.deliveredEvent,delivered,Option.bind_some] at event
    exact absurd (event.symm.trans invalid) (Option.some_ne_none _)
  have unannounced : ¬haunted.shared.1.Conveys settings pid := fun conveys => conveys (eventless .received (by decide))
  obtain ⟨⟨consistent,observed⟩,views⟩ := World.reach_coherent (Observed.sound settings)
    ⟨Consistent.initial settings,Observed.initial settings⟩ observing
  refine ⟨?_,?_,?_⟩
  · rintro transaction member rfl
    exact unannounced (observed.transacting transaction member)
  · rintro published member rfl
    exact unannounced (observed.retrying _ (List.mem_map.mpr ⟨published,member,rfl⟩)).2
  · intro request next running
    obtain ⟨_,views,watching,follows⟩ := views pid _ running
    have silent : ∀ stage, stage ≠ .rejected → views.2.announces stage = none := by
      intro stage other
      rw [watching.announces]
      exact eventless stage other
    obtain ⟨rejection,announced,asked⟩ := allows_rejecting follows.1.2 silent
    rw [watching.announces] at announced
    exact ⟨rejection,announced,asked⟩

def invalidDelivery : List ConsumerAction :=
  [.external (.enqueue (.stringify (Json.ofFields [("pattern",some (.str CreateMessageEvent.nameV1)),
    ("data",some (.obj []))])) []),.start (.deliver 0),.resume 0 (.served {}),.resume 0 (.served {})]

set_option maxRecDepth 4000 in
theorem invalid_delivery_leaves_no_trace : ∃ pool next, sampleRun invalidDelivery = some pool ∧
    pool.program 0 = some (.await .ack next) ∧
    (∀ transaction ∈ pool.shared.transactions, transaction.pid ≠ 0) ∧
    (∀ published ∈ pool.shared.publishes, published.publisher ≠ 0) ∧
    ∀ request next, pool.program 0 = some (.await request next) → ∃ rejection,
      pool.shared.announcement sampleSettings 0 .rejected = some rejection ∧ request ∈ rejection.rejecting := by
  let pool := (sampleRun invalidDelivery).get (by decide)
  have ran : sampleRun invalidDelivery = some pool := (Option.some_get _).symm
  have reached : (consumerWorld sampleSettings).Reach anything .initial pool :=
    Machine.run_reaches ran (by decide)
  have delivered : pool.shared.delivered 0 = some 0 := by decide
  have invalid : pool.shared.carriedBy sampleSettings 0 = none := by decide
  exact ⟨pool,_,ran,rfl,invalid_messages_leave_no_trace sampleSettings reached delivered invalid⟩

end MessagingPlatform.Consumer

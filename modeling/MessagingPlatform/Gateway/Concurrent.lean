import MessagingPlatform.Gateway.System

/-! What the rows and the answers of the gateway come to in every run: step lemmas for each request, the soundness of
the protocol, and the law of all runs. -/
namespace MessagingPlatform.Gateway
open Outbox Schema

def Stage.Of (database : Database) (pid : Nat) : Stage → Prop
  | .received => pid ∉ database.store.owners ∧ ∀ outcome, (pid,outcome) ∉ database.responses
  | .opened => ∀ rows, database.store.opened pid = some rows → rows = []
  | .saved stored => ∀ rows, database.store.opened pid = some rows → rows = [stored]
  | .kept stored => (pid,stored) ∈ database.store.log
  | .adrift => True

structure Knows (pid : Nat) (database : Database) (view : Post × Stage) : Prop where
  post : database.posts pid = some view.1
  stage : view.2.Of database pid

structure Apart (pid : Nat) (before after : Database) : Prop where
  posts : after.posts = before.posts
  owners : ∀ other, other ≠ pid → other ∈ after.store.owners → other ∈ before.store.owners
  opened : ∀ other, other ≠ pid → after.store.opened other = before.store.opened other
  log : ∀ entry ∈ before.store.log, entry ∈ after.store.log
  responses : ∀ other, other ≠ pid → ∀ outcome, (other,outcome) ∈ after.responses → (other,outcome) ∈ before.responses

theorem Knows.apart {pid other : Nat} {before after : Database} {view : Post × Stage} (apart : Apart pid before after)
    (different : other ≠ pid) (knows : Knows other before view) : Knows other after view := by
  obtain ⟨post,stage⟩ := knows
  refine ⟨apart.posts ▸ post,?_⟩
  obtain ⟨started,reached⟩ := view
  cases reached with
  | received => exact ⟨fun member => stage.1 (apart.owners other different member),
      fun outcome member => stage.2 outcome (apart.responses other different outcome member)⟩
  | opened => exact fun rows mine => stage rows (apart.opened other different ▸ mine)
  | saved stored => exact fun rows mine => stage rows (apart.opened other different ▸ mine)
  | kept stored => exact apart.log _ stage
  | adrift => trivial

def Database.Carries (zod : Library) (database : Database) (pid : Nat) (stored : Stored) : Prop :=
  stored.id < database.nextId ∧ ∃ post event, database.posts pid = some post ∧ MadeFrom zod post stored.new event

structure Kept (zod : Library) (fresh : Nat) (database : Database) : Prop where
  events : IndexedStore.Unique Stored.eventId database.store
  ids : IndexedStore.Unique (fun stored => some stored.id) database.store
  single : IndexedStore.Single database.store
  rows : IndexedStore.All (database.Carries zod) database.store
  owners : ∀ owner ∈ database.store.owners, owner < fresh
  answered : ∀ response ∈ database.responses, response.1 < fresh
  accepted : ∀ pid response, (pid,.ok response) ∈ database.responses → ∃ stored,
    (pid,stored) ∈ database.store.log ∧ response.outboxId = stored.id ∧ response.eventId = stored.new.eventId
  refused : ∀ pid violation, (pid,.error (.badRequest violation)) ∈ database.responses → pid ∉ database.store.owners

namespace Kept

variable {zod : Library} {fresh pid : Nat} {database : Database} {store : IndexedStore Stored}

theorem initial (zod : Library) : Kept zod 0 .initial where
  events := .empty
  ids := .empty
  single := .empty
  rows := .empty
  owners _ member := (List.not_mem_nil member).elim
  answered _ member := (List.not_mem_nil member).elim
  accepted _ _ member := (List.not_mem_nil member).elim
  refused _ _ member := (List.not_mem_nil member).elim

theorem begin (kept : Kept zod fresh database) (below : pid < fresh)
    (unanswered : ∀ outcome, (pid,outcome) ∉ database.responses) (begun : database.store.begin pid = some store) :
    Kept zod fresh { database with store } := by
  obtain ⟨_,same⟩ := IndexedStore.begin_eq begun
  refine ⟨kept.events.begin begun,kept.ids.begin begun,kept.single.begin begun,kept.rows.begin begun,?_,kept.answered,?_,?_⟩
  · subst same
    intro owner member
    rcases List.mem_cons.mp member with rfl | old
    · exact below
    · exact kept.owners owner old
  · subst same
    exact kept.accepted
  · subst same
    intro refused violation member entered
    rcases List.mem_cons.mp entered with rfl | old
    · exact unanswered _ member
    · exact kept.refused refused violation member old

theorem drawn (kept : Kept zod fresh database) : Kept zod fresh { database with nextId := database.nextId + 1 } :=
  { kept with rows := kept.rows.mono (fun _ _ carries => ⟨Nat.lt_succ_of_lt carries.1,carries.2⟩) }

/-- The next id of the sequence is new. -/
theorem id_free (kept : Kept zod fresh database) {rows : List Stored} (mine : database.store.opened pid = some rows)
    (new : Consumer.NewOutboxEvent) :
    IndexedStore.Free (fun stored : Stored => some stored.id) database.store rows ⟨database.nextId,new⟩ := by
  have older : ∀ other : Stored, other.id < database.nextId →
      IndexedStore.clashes (fun stored : Stored => some stored.id) ⟨database.nextId,new⟩ other = false := by
    intro other below
    rw [← Bool.not_eq_true,IndexedStore.clashes_iff]
    rintro ⟨id,⟨⟩,same⟩
    exact absurd (Option.some.inj same) (Nat.ne_of_lt below)
  exact ⟨fun entry member => older _ (kept.rows.committed entry member).1,
    fun other member => older _ (kept.rows.opened pid rows mine other member).1,
    fun owner _ theirs opened before member => older _ (kept.rows.opened owner theirs opened before member).1⟩

theorem insert (kept : Kept zod fresh database) {new : Consumer.NewOutboxEvent} {post : Post} {event : ContractEvent}
    (started : database.posts pid = some post) (made : MadeFrom zod post new event)
    (none : ∀ rows, database.store.opened pid = some rows → rows = [])
    (inserted : database.store.insert Stored.eventId pid ⟨database.nextId,new⟩ = some (.stored store)) :
    Kept zod fresh { database with store, nextId := database.nextId + 1 } := by
  obtain ⟨rows,mine,_,same⟩ := IndexedStore.insert_stored inserted
  have ids := kept.ids.add mine (kept.id_free mine new)
  have carries := kept.drawn.rows.insert inserted ⟨Nat.lt_succ_self _,post,event,started,made⟩
  have events := kept.events.insert inserted
  have single := kept.single.insert inserted none
  subst same
  exact ⟨events,ids,single,carries,kept.owners,kept.answered,kept.accepted,kept.refused⟩

theorem rollback (kept : Kept zod fresh database) : Kept zod fresh { database with store := database.store.rollback pid } :=
  ⟨kept.events.rollback,kept.ids.rollback,kept.single.rollback,kept.rows.rollback,kept.owners,kept.answered,
    kept.accepted,kept.refused⟩

theorem commit (kept : Kept zod fresh database) (committed : database.store.commit pid = some store) :
    Kept zod fresh { database with store } := by
  obtain ⟨rows,_,same⟩ := IndexedStore.commit_eq committed
  refine ⟨kept.events.commit committed,kept.ids.commit committed,kept.single.commit committed,
    kept.rows.commit committed,?_,kept.answered,?_,?_⟩
  · subst same
    exact kept.owners
  · subst same
    intro answered response member
    obtain ⟨stored,among,named⟩ := kept.accepted answered response member
    exact ⟨stored,List.mem_append_left _ among,named⟩
  · subst same
    exact kept.refused

theorem respond (kept : Kept zod fresh database) {view : Post × Stage} {outcome : Except RequestFailure AcceptedResponse}
    (below : pid < fresh) (knows : Knows pid database view) (answers : Answers view.2 outcome) :
    Kept zod fresh { database with responses := database.responses ++ [(pid,outcome)] } := by
  refine { kept with answered := ?_, accepted := ?_, refused := ?_ }
  · intro response member
    rcases List.mem_append.mp member with old | last
    · exact kept.answered response old
    · obtain rfl := List.mem_singleton.mp last
      exact below
  · intro answered response member
    rcases List.mem_append.mp member with old | last
    · exact kept.accepted answered response old
    · obtain ⟨rfl,rfl⟩ := Prod.mk.inj (List.mem_singleton.mp last)
      obtain ⟨stored,stage,named⟩ := answers
      have committed := knows.stage
      rw [stage] at committed
      exact ⟨stored,committed,named⟩
  · intro refused violation member
    rcases List.mem_append.mp member with old | last
    · exact kept.refused refused violation old
    · obtain ⟨rfl,rfl⟩ := Prod.mk.inj (List.mem_singleton.mp last)
      have unentered := knows.stage
      rw [show view.2 = .received from answers] at unentered
      exact unentered.1

end Kept

section steps
variable {zod : Library} {fresh pid : Nat} {database after : Database} {view : Post × Stage}

theorem Apart.refl : Apart pid database database :=
  ⟨rfl,fun _ _ member => member,fun _ _ => rfl,fun _ member => member,fun _ _ _ member => member⟩

/-- What a step does to its own transaction alone. -/
theorem Apart.of_store {store : IndexedStore Stored} {nextId : Nat} {rows : Option (List Stored)}
    (owners : ∀ other, other ≠ pid → other ∈ store.owners → other ∈ database.store.owners)
    (opened : store.opened = Function.update database.store.opened pid rows)
    (log : ∀ entry ∈ database.store.log, entry ∈ store.log) : Apart pid database { database with store, nextId } where
  posts := rfl
  owners := owners
  opened other different := by
    dsimp only
    rw [opened,Function.update_of_ne different]
  log := log
  responses _ _ _ member := member

theorem Apart.begin {store : IndexedStore Stored} (begun : database.store.begin pid = some store) :
    Apart pid database { database with store } := by
  obtain ⟨_,rfl⟩ := IndexedStore.begin_eq begun
  refine .of_store ?_ rfl (fun _ member => member)
  intro other different member
  exact (List.mem_cons.mp member).resolve_left different

theorem Apart.insert {store : IndexedStore Stored} {stored : Stored} {nextId : Nat}
    (inserted : database.store.insert Stored.eventId pid stored = some (.stored store)) :
    Apart pid database { database with store, nextId } := by
  obtain ⟨_,_,_,rfl⟩ := IndexedStore.insert_stored inserted
  exact .of_store (fun _ _ member => member) rfl (fun _ member => member)

theorem Apart.rollback : Apart pid database { database with store := database.store.rollback pid } :=
  .of_store (fun _ _ member => member) rfl (fun _ member => member)

theorem Apart.commit {store : IndexedStore Stored} (committed : database.store.commit pid = some store) :
    Apart pid database { database with store } := by
  obtain ⟨_,_,rfl⟩ := IndexedStore.commit_eq committed
  exact .of_store (fun _ _ member => member) rfl (fun _ member => List.mem_append_left _ member)

theorem Apart.respond (outcome : Except RequestFailure AcceptedResponse) :
    Apart pid database { database with responses := database.responses ++ [(pid,outcome)] } := by
  refine ⟨rfl,fun _ _ member => member,fun _ _ => rfl,fun _ member => member,?_⟩
  intro other different answered member
  refine (List.mem_append.mp member).resolve_right ?_
  rintro last
  exact different (congrArg Prod.fst (List.mem_singleton.mp last))

/-- What becomes of a request: its reply, or a failure that the environment makes of it. -/
def Outcome (demand : Demand) (reply outcome : Except RequestFailure demand.Reply) : Prop :=
  outcome = reply ∨ ∃ error, demand.fails error ∧ outcome = .error error

theorem Outcome.error {request : Request} {reply : Except RequestFailure (Reply request)} {error : RequestFailure}
    (unrefused : Unrefused reply) (answered : Outcome (.step request) reply (.error error)) :
    Unrefused (.error error : Except _ (Reply request)) := by
  rcases answered with rfl | ⟨failure,fails,same⟩
  · exact unrefused
  · obtain rfl := Except.error.inj same
    rintro response ⟨⟩
    cases fails

theorem Outcome.ok {demand : Demand} {reply : Except RequestFailure demand.Reply} {value : demand.Reply}
    (answered : Outcome demand reply (.ok value)) : reply = .ok value := by
  rcases answered with same | ⟨_,_,impossible⟩
  · exact same.symm
  · cases impossible

def Served (zod : Library) (fresh pid : Nat) (view : Post × Stage) (request : Request)
    (reply : Except RequestFailure (Reply request)) (before after : Database) : Prop :=
  Kept zod fresh after ∧
  (∀ outcome, Outcome (.step request) reply outcome → ∃ next, (accepting zod).moves view request outcome next ∧
    Knows pid after next) ∧
  Apart pid before after

theorem quiet_served {request : Request} (quiet : request.quiet = true) (kept : Kept zod fresh database)
    (knows : Knows pid database view) {reply : Except RequestFailure (Reply request)} (unrefused : Unrefused reply) :
    Served zod fresh pid view request reply database database := by
  refine ⟨kept,?_,.refl⟩
  intro outcome answered
  refine ⟨view,⟨rfl,?_,?_⟩,knows⟩
  · cases outcome with
    | ok value => exact .ok
    | error error => exact answered.error unrefused
  · cases request with
    | startTransaction | saveOutboxEvent _ | commitTransaction | rollbackTransaction => cases quiet
    | randomUUID | newDate | inject | lifecycle _ | count _ | connect | release => cases outcome <;> rfl

theorem start_served (kept : Kept zod fresh database) (below : pid < fresh) (knows : Knows pid database view)
    (received : view.2 = .received) {store : IndexedStore Stored} (begun : database.store.begin pid = some store) :
    Served zod fresh pid view .startTransaction (.ok ()) database { database with store } := by
  obtain ⟨post,stage⟩ := view
  obtain rfl : stage = .received := received
  refine ⟨kept.begin below knows.stage.2 begun,?_,.begin begun⟩
  intro outcome answered
  cases outcome with
  | error error => exact ⟨(post,.adrift),⟨rfl,answered.error .ok,rfl⟩,knows.post,trivial⟩
  | ok _ =>
    refine ⟨(post,.opened),⟨rfl,.ok,rfl⟩,knows.post,?_⟩
    obtain ⟨_,rfl⟩ := IndexedStore.begin_eq begun
    intro rows mine
    exact IndexedStore.opened_self mine

theorem save_served (kept : Kept zod fresh database) (knows : Knows pid database view) {new : Consumer.NewOutboxEvent}
    (opened : view.2 = .opened) {event : ContractEvent} (made : MadeFrom zod view.1 new event)
    {reply : Except RequestFailure OutboxEvent} (saved : database.saveOutboxEvent pid new = some (reply,after)) :
    Served zod fresh pid view (.saveOutboxEvent new) reply database after := by
  obtain ⟨post,stage⟩ := view
  obtain rfl : stage = .opened := opened
  obtain ⟨inserted,performed,same⟩ := Option.map_eq_some_iff.mp saved
  cases inserted with
  | taken =>
    obtain ⟨rfl,rfl⟩ := Prod.mk.inj same
    refine ⟨kept.drawn,?_,.of_store (fun _ _ member => member) (Function.update_eq_self ..).symm (fun _ member => member)⟩
    intro outcome answered
    cases outcome with
    | error error => exact ⟨(post,.adrift),⟨rfl,answered.error (by rintro response ⟨⟩),rfl⟩,knows.post,trivial⟩
    | ok row => cases answered.ok
  | stored store =>
    obtain ⟨rfl,rfl⟩ := Prod.mk.inj same
    refine ⟨kept.insert knows.post made knows.stage performed,?_,.insert performed⟩
    intro outcome answered
    cases outcome with
    | error error => exact ⟨(post,.adrift),⟨rfl,answered.error .ok,rfl⟩,knows.post,trivial⟩
    | ok row =>
      obtain rfl := Except.ok.inj answered.ok
      refine ⟨(post,.saved ⟨database.nextId,new⟩),⟨rfl,.ok,rfl⟩,knows.post,?_⟩
      obtain ⟨before,mine,_,rfl⟩ := IndexedStore.insert_stored performed
      obtain rfl := knows.stage before mine
      intro rows now
      exact IndexedStore.opened_self now

theorem commit_served (kept : Kept zod fresh database) (knows : Knows pid database view) {stored : Stored}
    (saved : view.2 = .saved stored) {store : IndexedStore Stored} (committed : database.store.commit pid = some store) :
    Served zod fresh pid view .commitTransaction (.ok ()) database { database with store } := by
  obtain ⟨post,stage⟩ := view
  obtain rfl : stage = .saved stored := saved
  refine ⟨kept.commit committed,?_,.commit committed⟩
  intro outcome answered
  cases outcome with
  | error error => exact ⟨(post,.adrift),⟨rfl,answered.error .ok,rfl⟩,knows.post,trivial⟩
  | ok _ =>
    refine ⟨(post,.kept stored),⟨rfl,.ok,?_⟩,knows.post,?_⟩
    · rintro _ ⟨⟩
      rfl
    · obtain ⟨rows,mine,rfl⟩ := IndexedStore.commit_eq committed
      obtain rfl := knows.stage rows mine
      exact List.mem_append_right _ List.mem_cons_self

theorem rollback_served (kept : Kept zod fresh database) (knows : Knows pid database view) :
    Served zod fresh pid view .rollbackTransaction (.ok ()) database
      { database with store := database.store.rollback pid } := by
  refine ⟨kept.rollback,?_,.rollback⟩
  intro outcome answered
  refine ⟨(view.1,.adrift),⟨rfl,?_,by cases outcome <;> rfl⟩,knows.post,trivial⟩
  cases outcome with
  | ok _ => exact .ok
  | error error => exact answered.error .ok

/-- Every step of a request is one of these. -/
theorem step_served (kept : Kept zod fresh database) (below : pid < fresh) (knows : Knows pid database view)
    {request : Request} (allowed : (accepting zod).allows view request) {supply : Supply}
    {reply : Except RequestFailure (Reply request)}
    (served : database.serve pid (.step request) supply = some (reply,after)) :
    Served zod fresh pid view request reply database after := by
  cases request with
  | startTransaction =>
    obtain ⟨store,begun,same⟩ := Option.map_eq_some_iff.mp served
    obtain ⟨rfl,rfl⟩ := Prod.mk.inj same
    exact start_served kept below knows allowed begun
  | saveOutboxEvent new =>
    obtain ⟨opened,event,made⟩ := allowed
    exact save_served kept knows opened made served
  | commitTransaction =>
    obtain ⟨stored,saved⟩ := allowed
    obtain ⟨store,committed,same⟩ := Option.map_eq_some_iff.mp served
    obtain ⟨rfl,rfl⟩ := Prod.mk.inj same
    exact commit_served kept knows saved committed
  | rollbackTransaction =>
    obtain ⟨rfl,rfl⟩ := Prod.mk.inj (Option.some.inj served)
    exact rollback_served kept knows
  | randomUUID | newDate | inject | lifecycle _ | count _ | connect | release =>
    obtain ⟨rfl,rfl⟩ := Prod.mk.inj (Option.some.inj served)
    exact quiet_served rfl kept knows .ok

end steps

/-- The answers of the gateway stay true while other requests run, wait for their keys and fail. -/
theorem gateway_sound (zod : Library) :
    (gatewayWorld zod).Sound (serving zod) (fun _ _ => True) anything (Kept zod) Knows where
  starts fresh database post program after kept _ started := by
    obtain ⟨rfl,rfl⟩ := Prod.mk.inj (Option.some.inj started)
    have older : ∀ pid, pid < fresh → Function.update database.posts fresh (some post) pid = database.posts pid :=
      fun pid below => Function.update_of_ne (Nat.ne_of_lt below) _ _
    refine ⟨?_,⟨(post,.received),⟨Function.update_self ..,?_⟩,post.program_serving zod⟩,?_⟩
    · have carried : ∀ pid stored, pid < fresh → database.Carries zod pid stored →
          Database.Carries zod { database with posts := Function.update database.posts fresh (some post) } pid stored := by
        rintro pid stored below ⟨id,carried,event,known,made⟩
        exact ⟨id,carried,event,(older pid below).trans known,made⟩
      refine { kept with
        rows := ⟨fun entry member => ?_,fun owner rows mine row member => ?_⟩
        owners := fun owner member => Nat.lt_succ_of_lt (kept.owners owner member)
        answered := fun response member => Nat.lt_succ_of_lt (kept.answered response member) }
      · exact carried _ _ (kept.owners _ (kept.single.entered entry member)) (kept.rows.committed entry member)
      · exact carried _ _ (kept.owners _ (kept.single.known owner rows mine)) (kept.rows.opened owner rows mine row member)
    · exact ⟨fun member => Nat.lt_irrefl _ (kept.owners _ member),fun _ member => Nat.lt_irrefl _ (kept.answered _ member)⟩
    · rintro pid below view ⟨known,stage⟩
      refine ⟨(older pid below).trans known,?_⟩
      obtain ⟨_,reached⟩ := view
      cases reached <;> exact stage
  serves fresh database pid view demand answer supply reply after kept below knows allowed _ _ served := by
    cases demand with
    | step request =>
      obtain ⟨keeps,moves,apart⟩ := step_served kept below knows allowed served
      exact ⟨keeps,moves,fun other different view known => known.apart apart different⟩
    | respond outcome =>
      obtain ⟨rfl,rfl⟩ := Prod.mk.inj (Option.some.inj served)
      exact ⟨kept.respond below knows allowed,fun _ _ => ⟨(view.1,.adrift),rfl,knows.post,trivial⟩,
        fun other different view known => known.apart (.respond outcome) different⟩
  refuses fresh database pid view demand error kept knows allowed fails := by
    cases demand with
    | respond outcome => cases fails
    | step request =>
      have unrefused : Unrefused (.error error : Except _ (Reply request)) := by
        rintro response ⟨⟩
        cases fails
      cases request with
      | startTransaction | saveOutboxEvent _ | commitTransaction | rollbackTransaction =>
        exact ⟨(view.1,.adrift),⟨rfl,unrefused,rfl⟩,knows.post,trivial⟩
      | randomUUID | newDate | inject | lifecycle _ | count _ | connect | release =>
        exact ⟨view,⟨rfl,unrefused,rfl⟩,knows⟩
  crashes _ _ _ kept _ := ⟨kept,fun _ _ _ known => known⟩
  externals fresh database incident after kept _ happened := by
    obtain ⟨pid⟩ := incident
    obtain rfl := Option.some.inj happened
    refine ⟨kept.rollback,?_⟩
    intro other view known
    by_cases self : other = pid
    · subst self
      obtain ⟨post,stage⟩ := known
      obtain ⟨_,reached⟩ := view
      have ended : (database.store.rollback other).opened other = none := Function.update_self ..
      refine ⟨post,?_⟩
      cases reached with
      | received => exact stage
      | opened => exact fun rows mine => absurd (ended.symm.trans mine) (by simp)
      | saved stored => exact fun rows mine => absurd (ended.symm.trans mine) (by simp)
      | kept stored => exact stage
      | adrift => trivial
    · exact known.apart .rollback self

structure Later (before after : Database) : Prop where
  log : before.store.log <+: after.store.log
  responses : before.responses <+: after.responses

theorem Later.refl {database : Database} : Later database database := ⟨List.prefix_refl _,List.prefix_refl _⟩

theorem Later.trans {first second third : Database} (one : Later first second) (two : Later second third) :
    Later first third :=
  ⟨one.log.trans two.log,one.responses.trans two.responses⟩

theorem serve_later {database after : Database} {pid : Nat} {demand : Demand} {supply : Supply}
    {reply : Except RequestFailure demand.Reply} (served : database.serve pid demand supply = some (reply,after)) :
    Later database after := by
  cases demand with
  | respond outcome =>
    obtain ⟨_,rfl⟩ := Prod.mk.inj (Option.some.inj served)
    exact ⟨List.prefix_refl _,List.prefix_append _ _⟩
  | step request =>
    cases request with
    | startTransaction =>
      obtain ⟨store,begun,same⟩ := Option.map_eq_some_iff.mp served
      obtain ⟨_,rfl⟩ := Prod.mk.inj same
      obtain ⟨_,rfl⟩ := IndexedStore.begin_eq begun
      exact ⟨List.prefix_refl _,List.prefix_refl _⟩
    | saveOutboxEvent new =>
      obtain ⟨inserted,performed,same⟩ := Option.map_eq_some_iff.mp served
      cases inserted with
      | taken =>
        obtain ⟨_,rfl⟩ := Prod.mk.inj same
        exact ⟨List.prefix_refl _,List.prefix_refl _⟩
      | stored store =>
        obtain ⟨_,rfl⟩ := Prod.mk.inj same
        obtain ⟨_,_,_,rfl⟩ := IndexedStore.insert_stored performed
        exact ⟨List.prefix_refl _,List.prefix_refl _⟩
    | commitTransaction =>
      obtain ⟨store,committed,same⟩ := Option.map_eq_some_iff.mp served
      obtain ⟨_,rfl⟩ := Prod.mk.inj same
      obtain ⟨_,_,rfl⟩ := IndexedStore.commit_eq committed
      exact ⟨List.prefix_append _ _,List.prefix_refl _⟩
    | randomUUID | newDate | inject | lifecycle _ | count _ | connect | release | rollbackTransaction =>
      obtain ⟨_,rfl⟩ := Prod.mk.inj (Option.some.inj served)
      exact ⟨List.prefix_refl _,List.prefix_refl _⟩

theorem step_later {zod : Library} {pool after : GatewayPool} {action : GatewayAction}
    (taken : (gatewayWorld zod).step pool action = some after) : Later pool.shared after.shared := by
  refine @World.step_keeps _ _ _ _ _ _ _ _ (Later pool.shared) ?_ (fun _ _ same => same) ?_ ?_ _ _ _ .refl taken
  · intro database pid demand supply reply after grown served
    exact grown.trans (serve_later served)
  · rintro database ⟨pid⟩ after grown happened
    obtain rfl := Option.some.inj happened
    exact ⟨grown.log,grown.responses⟩
  · intro database fresh post program after grown started
    obtain ⟨_,rfl⟩ := Prod.mk.inj (Option.some.inj started)
    exact ⟨grown.log,grown.responses⟩

/-- Nothing takes back a committed row or an answer. -/
theorem reaches_later {zod : Library} {pool later : GatewayPool}
    (reached : Machine.Reaches (gatewayWorld zod).step ((gatewayWorld zod).Permits anything) pool later) :
    Later pool.shared later.shared := by
  induction reached with
  | start => exact .refl
  | next _ _ taken ih => exact ih.trans (step_later taken)

theorem reach_kept {zod : Library} {pool : GatewayPool} (reached : (gatewayWorld zod).Reach anything .initial pool) :
    Kept zod pool.fresh pool.shared := World.reach_inv (gateway_sound zod) (Kept.initial zod) reached

/-- In every run of concurrent requests the committed rows carry events that their requests built and validated, one
row a request at most and under ids of their own. A client that is told 202 has its row among them, in every further
run too; one that is told 400 has none. -/
theorem accepted_requests_stored (zod : Library) {pool : GatewayPool}
    (reached : (gatewayWorld zod).Reach anything .initial pool) :
    (∀ entry ∈ pool.shared.store.log, ∃ post event, pool.shared.posts entry.1 = some post ∧
      MadeFrom zod post entry.2.new event) ∧
    (pool.shared.store.log.map Prod.fst).Nodup ∧
    (pool.shared.store.log.map (fun entry => entry.2.id)).Nodup ∧
    (pool.shared.store.log.map (fun entry => entry.2.new.eventId)).Nodup ∧
    ∀ later, Machine.Reaches (gatewayWorld zod).step ((gatewayWorld zod).Permits anything) pool later →
      (∀ pid response, (pid,.ok response) ∈ pool.shared.responses → ∃ stored, (pid,stored) ∈ later.shared.store.log ∧
        response.outboxId = stored.id ∧ response.eventId = stored.new.eventId) ∧
      ∀ pid violation, (pid,.error (.badRequest violation)) ∈ pool.shared.responses →
        ∀ stored, (pid,stored) ∉ later.shared.store.log := by
  have here := reach_kept reached
  refine ⟨fun entry member => (here.rows.committed entry member).2,here.single.log,here.ids.nodup (fun _ => rfl),
    here.events.nodup (fun _ => rfl),?_⟩
  intro later further
  obtain ⟨log,responses⟩ := reaches_later further
  refine ⟨?_,?_⟩
  · intro pid response member
    obtain ⟨stored,committed,named⟩ := here.accepted pid response member
    exact ⟨stored,log.subset committed,named⟩
  · intro pid violation member stored committed
    have there := reach_kept (reached.trans further)
    exact there.refused pid violation (responses.subset member) (there.single.entered _ committed)

def serveSteps (pid count : Nat) : List GatewayAction :=
  List.replicate count (.resume pid (.served { randomUUID := "11111111-1111-4111-8111-111111111111" }))

/-- Two requests draw the same id for their events, and one has no correlation id. -/
def concurrentRequests : List GatewayAction :=
  [.start ⟨AppController.testMessage,some "22222222-2222-4222-8222-222222222222"⟩,
    .start ⟨AppController.testMessage,some "33333333-3333-4333-8333-333333333333"⟩,
    .start ⟨AppController.testMessage,none⟩] ++
    serveSteps 0 7 ++ serveSteps 1 6 ++ serveSteps 0 5 ++ serveSteps 1 5 ++ serveSteps 2 5

set_option maxRecDepth 4000 in
theorem concurrent_requests_stored : ∃ pool,
    Machine.run (gatewayWorld sampleLibrary).step (World.empty .initial) concurrentRequests = some pool ∧
    pool.shared.responses.map (fun answer => (answer.1,answer.2.toOption.map AcceptedResponse.outboxId)) =
      [(0,some 1),(1,none),(2,none)] ∧
    (pool.shared.store.log.map (fun entry => entry.2.new.eventId)).Nodup ∧
    ∀ later, Machine.Reaches (gatewayWorld sampleLibrary).step ((gatewayWorld sampleLibrary).Permits anything) pool later →
      (∃ stored, (0,stored) ∈ later.shared.store.log ∧ stored.id = 1) ∧
      ∀ stored, (2,stored) ∉ later.shared.store.log := by
  let ended := Machine.run (gatewayWorld sampleLibrary).step (World.empty .initial) concurrentRequests
  let pool := ended.get (by decide)
  have ran : ended = some pool := (Option.some_get _).symm
  have reached : (gatewayWorld sampleLibrary).Reach anything .initial pool := Machine.run_reaches ran (by decide)
  obtain ⟨_,_,_,events,durable⟩ := accepted_requests_stored sampleLibrary reached
  refine ⟨pool,ran,by decide,events,?_⟩
  intro later further
  obtain ⟨accepted,refused⟩ := durable later further
  refine ⟨?_,refused 2 _ (.tail _ (.tail _ (.head _)))⟩
  obtain ⟨stored,committed,id,_⟩ := accepted 0 _ (.head _)
  exact ⟨stored,committed,id.symm⟩

end MessagingPlatform.Gateway

import MessagingPlatform.Idempotency.Winner

/-! Calls for different events side by side: neither sees what the other does. -/
namespace MessagingPlatform.Idempotency
open IdempotencyService

def Request.Concerns (eventId : String) : Request → Prop
  | .save options => options.eventId = eventId
  | .findOne other => other = eventId
  | .newDate => True

namespace State

def only (eventId : String) (state : State) : State where
  rows other := if other = eventId then state.rows other else none
  pending other := if other = eventId then state.pending other else none
  calls number := (state.calls number).filter (fun call => call.options.eventId = eventId)

variable {column : Option Json → Option Json} {state : State} {eventId : String}

theorem only_congr {other : State} (rows : state.rows eventId = other.rows eventId)
    (pending : state.pending eventId = other.pending eventId) (calls : state.calls = other.calls) :
    state.only eventId = other.only eventId := by
  simp only [only,calls,State.mk.injEq,and_true]
  constructor
  · funext event
    split_ifs with same
    · rw [same,rows]
    · rfl
  · funext event
    split_ifs with same
    · rw [same,pending]
    · rfl

@[simp] theorem only_rows : (state.only eventId).rows eventId = state.rows eventId := if_pos rfl

@[simp] theorem only_pending : (state.only eventId).pending eventId = state.pending eventId := if_pos rfl

theorem only_holds {number : Nat} : (state.only eventId).Holds number eventId ↔ state.Holds number eventId := by
  simp only [Holds,only_pending]

theorem only_hold {number : Nat} {row : ProcessedEvent} :
    (state.only eventId).hold eventId number row = (state.hold eventId number row).only eventId := by
  simp only [hold,only,State.mk.injEq,true_and,and_true]
  funext event
  by_cases same : event = eventId <;> simp [same]

theorem only_release : (state.only eventId).release eventId = (state.release eventId).only eventId := by
  simp only [release,only,State.mk.injEq,true_and,and_true]
  funext event
  by_cases same : event = eventId <;> simp [same]

theorem only_insert {entry : Entry} :
    (state.only eventId).insert eventId entry = (state.insert eventId entry).only eventId := by
  simp only [insert,only,State.mk.injEq,and_true]
  funext event
  by_cases same : event = eventId <;> simp [same]

theorem only_resume {number : Nat} {call : Call} (about : call.options.eventId = eventId) :
    (state.only eventId).resume number call = (state.resume number call).only eventId := by
  simp only [resume,only,State.mk.injEq,true_and]
  funext other
  obtain rfl | differs := eq_or_ne other number
  · simp [Option.filter_some,about]
  · simp [Function.update_of_ne differs]

theorem only_resume_of_ne {number : Nat} {call : Call} (other : call.options.eventId ≠ eventId)
    (before : ∀ previous, state.calls number = some previous → previous.options.eventId ≠ eventId) :
    (state.resume number call).only eventId = state.only eventId := by
  simp only [resume,only,State.mk.injEq,true_and]
  funext another
  obtain rfl | differs := eq_or_ne another number
  · cases present : state.calls another with
    | none => simp [Option.filter_some,other]
    | some previous => simp [Option.filter_some,other,before previous present]
  · simp [Function.update_of_ne differs]

/-- A request of an event is served alike with and without the others. -/
theorem serve_only {number : Nat} {request : Request} (concerns : request.Concerns eventId) (event : Event) :
    (state.only eventId).serve column number request event =
      (state.serve column number request event).map (fun served => (served.1.only eventId,served.2)) := by
  cases request with
  | save options =>
    obtain rfl : options.eventId = eventId := concerns
    cases event with
    | inserts processedAt =>
      simp only [serve,only_rows,only_pending,only_hold]
      split_ifs <;> rfl
    | commits =>
      simp only [serve,only_pending,only_release,only_insert]
      cases state.pending options.eventId with
      | none => rfl
      | some held =>
        dsimp only
        split_ifs <;> rfl
    | violates error =>
      simp only [serve,only_rows,only_holds]
      split_ifs <;> rfl
    | refuses error =>
      simp only [serve,only_holds,only_release]
      split_ifs <;> rfl
    | finds | ticks _ => rfl
  | findOne other =>
    obtain rfl : other = eventId := concerns
    cases event with
    | finds => simp [serve]
    | inserts _ | commits | violates _ | refuses _ | ticks _ => rfl
  | newDate => cases event <;> rfl

/-- A request of another event changes nothing that is about this one. -/
theorem serve_frame {number : Nat} {request : Request} {other : String} (concerns : request.Concerns other)
    (differs : other ≠ eventId) {event : Event} {after : State} {reply : Option (Except Thrown (Reply request))}
    (served : state.serve column number request event = some (after,reply)) :
    after.only eventId = state.only eventId ∧ after.calls = state.calls := by
  cases request with
  | save options =>
    obtain rfl : options.eventId = other := concerns
    cases event with
    | inserts processedAt =>
      simp only [serve,Option.ite_none_right_eq_some,Option.some.injEq,Prod.mk.injEq] at served
      obtain ⟨-,rfl,-⟩ := served
      exact ⟨only_congr rfl (hold_pending_of_ne _ differs.symm) rfl,rfl⟩
    | commits =>
      unfold serve at served
      dsimp only at served
      split at served
      next =>
        simp only [Option.ite_none_right_eq_some,Option.some.injEq,Prod.mk.injEq] at served
        obtain ⟨-,rfl,-⟩ := served
        exact ⟨only_congr (insert_rows_of_ne _ differs.symm) (release_pending_of_ne differs.symm) rfl,rfl⟩
      next => cases served
    | violates error =>
      simp only [serve,Option.ite_none_right_eq_some,Option.some.injEq,Prod.mk.injEq] at served
      obtain ⟨-,rfl,-⟩ := served
      exact ⟨rfl,rfl⟩
    | refuses error =>
      simp only [serve,Option.ite_none_left_eq_some] at served
      obtain ⟨-,served⟩ := served
      split_ifs at served
      · obtain ⟨rfl,-⟩ := Prod.mk.inj (Option.some.inj served)
        exact ⟨only_congr rfl (release_pending_of_ne differs.symm) rfl,rfl⟩
      · obtain ⟨rfl,-⟩ := Prod.mk.inj (Option.some.inj served)
        exact ⟨rfl,rfl⟩
    | finds | ticks _ => cases served
  | findOne _ =>
    cases event with
    | finds | refuses _ =>
      obtain ⟨rfl,-⟩ := Prod.mk.inj (Option.some.inj served)
      exact ⟨rfl,rfl⟩
    | inserts _ | commits | violates _ | ticks _ => cases served
  | newDate =>
    cases event with
    | ticks now =>
      obtain ⟨rfl,-⟩ := Prod.mk.inj (Option.some.inj served)
      exact ⟨rfl,rfl⟩
    | inserts _ | commits | violates _ | refuses _ | finds => cases served

end State

variable {column : Option Json → Option Json} {initial : String → Option ProcessedEvent} {state after : State}
  {eventId : String}

theorem duplicateOf_concerns (eventId : String) : (duplicateOf eventId).Asks (Request.Concerns eventId) := by
  refine Async.Asks.bind (Async.Asks.call rfl) ?_
  intro existing
  cases existing with
  | some row => trivial
  | none => exact Async.Asks.bind (Async.Asks.call trivial) (fun _ => trivial)

theorem Situation.concerns {rows : String → Option Entry} {number : Nat} {call : Call}
    (situation : Situation rows number call) : call.program.Asks (Request.Concerns call.options.eventId) := by
  cases situation with
  | saving same =>
    rw [same]
    refine Async.Asks.tryCatch (Async.Asks.bind (Async.Asks.call rfl) (fun _ => trivial)) ?_
    intro error
    split_ifs
    · exact duplicateOf_concerns _
    · trivial
  | reading same _ _ =>
    rw [same]
    exact duplicateOf_concerns _
  | recorded same _ _ | duplicate same _ _ | rejected same =>
    rw [same]
    trivial

def Action.About (state : State) (eventId : String) : Action → Prop
  | .start _ options => options.eventId = eventId
  | .perform number _ => ∃ call, state.calls number = some call ∧ call.options.eventId = eventId

/-- A start under the number of another call is not one. -/
def Action.Fresh (state : State) : Action → Prop
  | .start number _ => state.calls number = none
  | .perform _ _ => True

/-- A call can do the same with and without the calls for other events, to the same effect. -/
theorem step_only (consistent : Consistent column initial state) {action : Action} (fresh : action.Fresh state)
    (about : action.About state eventId) : (state.only eventId).step column action =
      (state.step column action).map (State.only eventId) := by
  cases action with
  | start number options =>
    obtain rfl : options.eventId = eventId := about
    have unused : state.calls number = none := fresh
    have absent : (state.only options.eventId).calls number = none := by simp [State.only,unused]
    simp only [State.step,absent,unused,Option.isSome_none,Bool.false_eq_true,if_false,Option.map_some]
    exact congrArg some (State.only_resume rfl)
  | perform number event =>
    obtain ⟨call,running,same⟩ := about
    have kept : (state.only eventId).calls number = some call := by
      simp [State.only,running,Option.filter_some,same]
    have concerns := (consistent.calls number call running).concerns
    obtain ⟨options,program⟩ := call
    obtain rfl : options.eventId = eventId := same
    cases program with
    | resolve value => simp only [State.step,kept,running,Option.map_none]
    | reject error => simp only [State.step,kept,running,Option.map_none]
    | await request next =>
      simp only [State.step,kept,running,State.serve_only concerns.1,Option.map_map]
      refine congrArg (fun f => Option.map f _) ?_
      funext served
      obtain ⟨ledger,reply⟩ := served
      cases reply with
      | none => rfl
      | some answer => exact State.only_resume rfl

/-- A call changes nothing of what is about another event. -/
theorem step_frame (consistent : Consistent column initial state) {action : Action}
    (other : ¬ action.About state eventId) (taken : state.step column action = some after) :
    after.only eventId = state.only eventId := by
  cases action with
  | start number options =>
    obtain ⟨unused,rfl⟩ := step_start taken
    have differs : (⟨options,checkAndMark options⟩ : Call).options.eventId ≠ eventId := other
    apply State.only_resume_of_ne differs
    intro previous present
    rw [unused] at present
    cases present
  | perform number event =>
    obtain ⟨options,request,next,ledger,reply,running,served,rfl⟩ := step_perform taken
    have concerns := (consistent.calls number _ running).concerns
    have differs : options.eventId ≠ eventId := fun same => other ⟨_,running,same⟩
    obtain ⟨framed,calls⟩ := State.serve_frame concerns.1 differs served
    cases reply with
    | none => exact framed
    | some answer =>
      refine (State.only_resume_of_ne differs ?_).trans framed
      intro previous present
      obtain rfl := Option.some.inj (running.symm.trans (calls ▸ present))
      exact differs

def Wins (state : State) (eventId : String) (number : Nat) : Prop :=
  ∃ options processedAt, state.calls number = some ⟨options,.resolve (.recorded processedAt)⟩ ∧
    options.eventId = eventId

def Returns (state : State) (eventId : String) (number : Nat) : Prop :=
  ∃ options result, state.calls number = some ⟨options,.resolve result⟩ ∧ options.eventId = eventId

def Repeats (state : State) (eventId : String) (number : Nat) (record : DuplicateRecord) : Prop :=
  ∃ options, state.calls number = some ⟨options,.resolve (.duplicate record)⟩ ∧ options.eventId = eventId

theorem Consistent.wins (consistent : Consistent column initial state) {number : Nat}
    (wins : Wins state eventId number) : ∃ entry, state.rows eventId = some entry ∧ entry.author = some number := by
  obtain ⟨options,processedAt,returned,rfl⟩ := wins
  cases consistent.calls number _ returned with
  | saving same =>
    rw [checkAndMark_eq] at same
    cases same
  | reading same _ _ =>
    rw [duplicateOf_eq] at same
    cases same
  | recorded _ present own => exact ⟨_,present,own⟩
  | duplicate same _ _ | rejected same => cases same

theorem Consistent.repeats (consistent : Consistent column initial state) {number : Nat} {record : DuplicateRecord}
    (repeats : Repeats state eventId number record) : ∃ entry, state.rows eventId = some entry ∧
      record = { processedAt := entry.row.processedAt, result := some entry.row.result } := by
  obtain ⟨options,returned,rfl⟩ := repeats
  cases consistent.calls number _ returned with
  | saving same =>
    rw [checkAndMark_eq] at same
    cases same
  | reading same _ _ =>
    rw [duplicateOf_eq] at same
    cases same
  | duplicate same present _ =>
    cases same
    exact ⟨_,present,rfl⟩
  | recorded same _ _ | rejected same => cases same

/-- The row of an event whose ledger was empty is the row of its winner. -/
theorem Consistent.winner (consistent : Consistent column initial state) (empty : initial eventId = none)
    {entry : Entry} (present : state.rows eventId = some entry) : ∃ winner options,
      state.calls winner = some ⟨options,.resolve (.recorded entry.row.processedAt)⟩ ∧
      options.eventId = eventId ∧ entry.row = options.row column entry.row.processedAt := by
  cases authored : entry.author with
  | none =>
    have old := consistent.olds eventId entry present authored
    rw [empty] at old
    cases old
  | some winner =>
    obtain ⟨⟨options,program⟩,returned,event,rfl,row⟩ := consistent.authors eventId entry winner present authored
    exact ⟨winner,options,returned,event,row⟩

/-- Of all calls for an event at most one wins, and one has as soon as any returns; the others that return
hand out the row that the winner stored; a call that rejects has stored none; and calls for
other events can neither do anything to them nor keep them from anything. -/
theorem checkAndMark_one_winner (column : Option Json → Option Json) (initial : String → Option ProcessedEvent)
    (eventId : String) (empty : initial eventId = none) (state : State)
    (reached : State.Reach column initial state) :
    (∀ first second, Wins state eventId first → Wins state eventId second → first = second) ∧
    ((∃ number, Returns state eventId number) → ∃ number, Wins state eventId number) ∧
    (∀ number record, Repeats state eventId number record → ∃ winner options,
      state.calls winner = some ⟨options,.resolve (.recorded record.processedAt)⟩ ∧
      options.eventId = eventId ∧
      (state.rows eventId).map Entry.row = some (options.row column record.processedAt) ∧
      record.result = some (column options.result)) ∧
    (∀ number options error, state.calls number = some ⟨options,.reject error⟩ →
      ∀ other entry, state.rows other = some entry → entry.author ≠ some number) ∧
    (∀ action : Action, action.Fresh state → action.About state eventId →
      (state.only eventId).step column action = (state.step column action).map (State.only eventId)) ∧
    (∀ (action : Action) after, ¬ action.About state eventId → state.step column action = some after →
      after.only eventId = state.only eventId) := by
  have consistent := reach_consistent reached
  refine ⟨?_,?_,?_,?_,fun _ fresh about => step_only consistent fresh about,
    fun _ _ other taken => step_frame consistent other taken⟩
  · intro first second winsFirst winsSecond
    obtain ⟨entry,present,own⟩ := consistent.wins winsFirst
    obtain ⟨same,found,other⟩ := consistent.wins winsSecond
    obtain rfl := Option.some.inj (present.symm.trans found)
    exact Option.some.inj (own.symm.trans other)
  · rintro ⟨number,options,result,returned,rfl⟩
    cases result with
    | recorded processedAt => exact ⟨number,options,processedAt,returned,rfl⟩
    | duplicate record =>
      obtain ⟨entry,present,-⟩ := consistent.repeats ⟨options,returned,rfl⟩
      obtain ⟨winner,others,won,event,-⟩ := consistent.winner empty present
      exact ⟨winner,others,_,won,event⟩
  · intro number record repeats
    obtain ⟨entry,present,rfl⟩ := consistent.repeats repeats
    obtain ⟨winner,options,won,event,row⟩ := consistent.winner empty present
    refine ⟨winner,options,won,event,?_,?_⟩
    · rw [present,Option.map_some]
      exact congrArg some row
    · dsimp only
      rw [row]
      rfl
  · intro number options error rejected other entry present own
    obtain ⟨call,found,-,program,-⟩ := consistent.authors other entry number present own
    obtain rfl := Option.some.inj (rejected.symm.trans found)
    cases program

def sampleOptions (eventType : String) (result : Option Json) : MarkProcessedOptions :=
  { eventId := "e", eventType, correlationId := none, result }

def sampleViolation : Thrown := ⟨.error,"QueryFailedError","duplicate key",some "23505",none⟩

/-- The first of two calls is the first to insert; the other one waits, collides and reads. -/
def sampleActions : List Action :=
  [.start 0 (sampleOptions "a" (some (.num 42))),.start 1 (sampleOptions "b" none),.perform 0 (.inserts 5),
    .perform 0 .commits,.perform 1 (.violates sampleViolation),.perform 1 .finds]

def sampleRun : Option State := Machine.run (State.step id) (State.begin (fun _ => none)) sampleActions

theorem sampleRun_some : sampleRun.isSome = true := by decide

theorem sampleRun_reach : State.Reach id (fun _ => none) (sampleRun.get sampleRun_some) := by
  have ran : Machine.run (State.step id) (State.begin (fun _ => none)) sampleActions =
      some (sampleRun.get sampleRun_some) := (Option.some_get sampleRun_some).symm
  exact Machine.run_reaches ran (by decide)

theorem sampleRun_winner : ∃ winner options, (sampleRun.get sampleRun_some).calls winner =
      some ⟨options,.resolve (.recorded 5)⟩ ∧ options.eventId = "e" ∧
    ((sampleRun.get sampleRun_some).rows "e").map Entry.row = some (options.row id 5) ∧
    some (some (.num 42)) = some (id options.result) :=
  (checkAndMark_one_winner id (fun _ => none) "e" rfl _ sampleRun_reach).2.2.1 1
    { processedAt := 5, result := some (some (.num 42)) } ⟨sampleOptions "b" none,rfl,rfl⟩

end MessagingPlatform.Idempotency

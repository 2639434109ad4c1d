import Mathlib.Data.List.Induction
import MessagingPlatform.Lifecycle.Subscriber

/-! What each callback of the subscriber does to its state, in one step. A record that is `null` stops
whatever reads a member of it. -/
namespace MessagingPlatform.Lifecycle

def WaitFor.seeks (sought : WaitFor) (record : Json) : Bool :=
  strictEquals (record.get? "eventId") sought.eventId && strictEquals (record.get? "stage") sought.stage.name

def stagesOf (record : Json) : Json :=
  .ofFields [("eventId",record.get? "eventId"),("stage",record.get? "stage")]

instance decidableNullMem : (records : List Json) → Decidable (.null ∈ records)
  | [] => .isFalse List.not_mem_nil
  | record :: rest =>
      have := decidableNullMem rest
      match record with
      | .null => .isTrue List.mem_cons_self
      | .bool _ | .num _ | .str _ | .arr _ | .obj _ => decidable_of_iff (.null ∈ rest) (by simp)

section reads
variable {record : Json} {records : List Json} {sought : WaitFor}

theorem member_of_ne_null (readable : record ≠ .null) (name : String) :
    member record name = .ok (record.get? name) := by
  cases record with
  | null => exact absurd rfl readable
  | bool _ | num _ | str _ | arr _ | obj _ => rfl

theorem seeks_null : sought.seeks .null = false := rfl

theorem predicate_null : sought.predicate .null = .error (typeError "null" "eventId") := rfl

theorem predicate_of_ne_null (readable : record ≠ .null) :
    sought.predicate record = .ok (sought.seeks record) := by
  unfold WaitFor.predicate WaitFor.seeks
  rw [member_of_ne_null readable,member_of_ne_null readable]
  change (if strictEquals (record.get? "eventId") sought.eventId = true then
    Except.ok (strictEquals (record.get? "stage") sought.stage.name) else .ok false) = _
  cases strictEquals (record.get? "eventId") sought.eventId <;> rfl

theorem findM?_of_readable (readable : .null ∉ records.takeWhile (fun record => !sought.seeks record)) :
    records.findM? sought.predicate = .ok (records.find? sought.seeks) := by
  induction records with
  | nil => rfl
  | cons first rest ih =>
    rw [List.findM?,List.find?_cons]
    cases found : sought.seeks first with
    | true =>
      have present : first ≠ .null := by
        rintro rfl
        rw [seeks_null] at found
        cases found
      rw [predicate_of_ne_null present,found]
      rfl
    | false =>
      rw [List.takeWhile_cons_of_pos (by rw [found]; rfl),List.mem_cons,not_or] at readable
      rw [predicate_of_ne_null (Ne.symm readable.1),found]
      exact ih readable.2

theorem findM?_of_unreadable (unreadable : .null ∈ records.takeWhile (fun record => !sought.seeks record)) :
    records.findM? sought.predicate = .error (typeError "null" "eventId") := by
  induction records with
  | nil => cases unreadable
  | cons first rest ih =>
    rw [List.findM?]
    cases found : sought.seeks first with
    | true =>
      rw [List.takeWhile_cons_of_neg (by rw [found]; decide)] at unreadable
      cases unreadable
    | false =>
      rw [List.takeWhile_cons_of_pos (by rw [found]; rfl)] at unreadable
      by_cases null : first = .null
      · rw [null,predicate_null]
        rfl
      · rw [predicate_of_ne_null null,found]
        exact ih ((List.mem_cons.mp unreadable).resolve_left (Ne.symm null))

open EventLifecycleSubscriber

theorem stageOf_of_ne_null (readable : record ≠ .null) : stageOf record = .ok (stagesOf record) := by
  unfold stageOf
  rw [member_of_ne_null readable,member_of_ne_null readable]
  rfl

theorem mapM_stageOf (readable : .null ∉ records) : records.mapM stageOf = .ok (records.map stagesOf) := by
  induction records with
  | nil => rfl
  | cons first rest ih =>
    rw [List.mem_cons,not_or] at readable
    rw [List.mapM_cons,stageOf_of_ne_null (Ne.symm readable.1),ih readable.2]
    rfl

theorem mapM_stageOf_null (unreadable : .null ∈ records) : ∃ error, records.mapM stageOf = .error error := by
  induction records with
  | nil => cases unreadable
  | cons first rest ih =>
    rw [List.mapM_cons]
    by_cases null : first = .null
    · exact ⟨typeError "null" "eventId",by rw [null]; rfl⟩
    · obtain ⟨error,failed⟩ := ih ((List.mem_cons.mp unreadable).resolve_left (Ne.symm null))
      exact ⟨error,by rw [stageOf_of_ne_null null,failed]; rfl⟩

end reads

section blocks
variable {Value Next : Type} {first : Code Value} {next : Value → Code Next} {state after : State}

theorem Code.bind_ok {value : Value} (done : first state = .ok value after) :
    (first >>= next) state = next value after := by
  change EStateM.bind first next state = _
  unfold EStateM.bind
  rw [done]

theorem Code.bind_error {error : Thrown} (threw : first state = .error error after) :
    (first >>= next) state = .error error after := by
  change EStateM.bind first next state = _
  unfold EStateM.bind
  rw [threw]

theorem Code.tryCatch_ok {body : Code Value} {handler : Thrown → Code Value} {value : Value}
    (done : body state = .ok value after) : tryCatch body handler state = .ok value after := by
  change EStateM.tryCatch body handler state = _
  unfold EStateM.tryCatch
  rw [done]

/-- `catch { }`. -/
theorem Code.tryCatch_error {body : Code Unit} {error : Thrown} (threw : body state = .error error after) :
    tryCatch body (fun _ => pure ()) state = .ok () after := by
  change EStateM.tryCatch body (fun _ => pure ()) state = _
  unfold EStateM.tryCatch
  rw [threw]
  rfl

end blocks

def Waiter.seeks (waiter : Waiter) (record : Json) : Bool := waiter.sought.seeks record

/-- The settlements of the waiters that seek the record; the loop comes from behind. -/
def answers (record : Json) (waiters : List Waiter) : List (Nat × Except Thrown Json) :=
  (waiters.filter (fun waiter => waiter.seeks record)).reverse.map (fun waiter => (waiter.call,.ok record))

def spares (record : Json) (waiters : List Waiter) (timer : Nat) : Bool :=
  waiters.all (fun waiter => !waiter.seeks record || waiter.timer ≠ some timer)

def State.notify (state : State) (record : Json) (front back : List Waiter) : State :=
  { state with
    waiters := front.filter (fun waiter => !waiter.seeks record) ++ back
    timers := state.timers.filter (spares record front)
    settlements := state.settlements ++ answers record front }

theorem spares_concat (record : Json) (front : List Waiter) (waiter : Waiter) (timer : Nat) :
    spares record (front ++ [waiter]) timer =
      (spares record front timer && (!waiter.seeks record || waiter.timer ≠ some timer)) := by
  unfold spares
  rw [List.all_append,List.all_cons,List.all_nil,Bool.and_true]

theorem answers_concat (record : Json) (front : List Waiter) (waiter : Waiter) :
    answers record (front ++ [waiter]) =
      (if waiter.seeks record then [(waiter.call,.ok record)] else []) ++ answers record front := by
  unfold answers
  rw [List.filter_append,List.reverse_append,List.map_append]
  cases seeks : waiter.seeks record <;> simp [seeks]

namespace EventLifecycleSubscriber

variable {state : State} {record : Json} {waiter : Waiter}

theorem waiterAt_eq {index : Nat} (found : state.waiters[index]? = some waiter) :
    waiterAt index state = .ok waiter state := by
  refine (Code.bind_ok rfl).trans ?_
  rw [found]
  rfl

theorem resolve_eq : waiter.resolve record state = .ok () { state with
    timers := state.timers.filter (fun timer => waiter.timer ≠ some timer)
    settlements := state.settlements ++ [(waiter.call,.ok record)] } := by
  unfold Waiter.resolve
  cases timed : waiter.timer with
  | none =>
    refine (Code.bind_ok rfl).trans ?_
    have same : state.timers.filter (fun other => none ≠ some other) = state.timers :=
      List.filter_eq_self.mpr (fun other _ => by simp)
    rw [same]
    rfl
  | some timer =>
    refine (Code.bind_ok rfl).trans ?_
    have same : state.timers.filter (fun other => some timer ≠ some other) =
        state.timers.filter (fun other => other ≠ timer) :=
      List.filter_congr (fun other _ => by simp [eq_comm])
    rw [same]
    rfl

theorem notifyBelow_eq (readable : record ≠ .null) (front back : List Waiter)
    (split : state.waiters = front ++ back) :
    notifyBelow record front.length state = .ok () (state.notify record front back) := by
  induction front using List.reverseRecOn generalizing state back with
  | nil =>
    have timers : state.timers.filter (spares record []) = state.timers :=
      List.filter_eq_self.mpr (fun timer _ => rfl)
    have same : state.notify record [] back = state := by
      unfold State.notify
      rw [timers]
      simp [answers,← split]
    rw [same]
    rfl
  | append_singleton front waiter ih =>
    rw [List.append_assoc,List.singleton_append] at split
    have found : state.waiters[front.length]? = some waiter := by
      rw [split,List.getElem?_append_right (Nat.le_refl _),Nat.sub_self]
      rfl
    rw [List.length_append,List.length_singleton]
    unfold notifyBelow
    refine (Code.bind_ok (waiterAt_eq found)).trans ?_
    rw [predicate_of_ne_null readable]
    refine (Code.bind_ok rfl).trans ?_
    cases seeks : waiter.sought.seeks record with
    | false =>
      have passed : waiter.seeks record = false := seeks
      have timers : spares record (front ++ [waiter]) = spares record front := by
        funext timer
        rw [spares_concat,passed]
        exact Bool.and_true _
      have kept : state.notify record (front ++ [waiter]) back = state.notify record front (waiter :: back) := by
        unfold State.notify
        rw [answers_concat,List.filter_append,timers]
        simp [passed]
      rw [kept]
      exact ih (waiter :: back) split
    | true =>
      have answered : waiter.seeks record = true := seeks
      have timers : (state.timers.filter (fun timer => waiter.timer ≠ some timer)).filter (spares record front) =
          state.timers.filter (spares record (front ++ [waiter])) := by
        rw [List.filter_filter]
        refine List.filter_congr (fun timer _ => ?_)
        rw [spares_concat,answered]
        rfl
      have rest : state.waiters.eraseIdx front.length = front ++ back := by
        rw [split,List.eraseIdx_append_of_length_le (Nat.le_refl _),Nat.sub_self]
        rfl
      refine (Code.bind_ok rfl).trans ?_
      refine (Code.bind_ok resolve_eq).trans ?_
      refine (ih back rest).trans (congrArg (EStateM.Result.ok ()) ?_)
      unfold State.notify
      rw [answers_concat,List.filter_append,← timers]
      simp [answered]

theorem notifyWaiters_eq (state : State) (readable : record ≠ .null) :
    notifyWaiters record state = .ok () (state.notify record state.waiters []) :=
  (Code.bind_ok rfl).trans (notifyBelow_eq readable state.waiters [] (List.append_nil _).symm)

theorem notifyWaiters_null (state : State) : (notifyWaiters .null state = .ok () state) ∨
    ∃ error, notifyWaiters .null state = .error error state := by
  cases waiters : state.waiters with
  | nil =>
    refine .inl ((Code.bind_ok rfl).trans ?_)
    rw [waiters]
    rfl
  | cons first rest =>
    have found : state.waiters[rest.length]? = some (state.waiters.get ⟨rest.length,by simp [waiters]⟩) := by
      simp
    refine .inr ⟨typeError "null" "eventId",(Code.bind_ok rfl).trans ?_⟩
    rw [waiters,List.length_cons]
    unfold notifyBelow
    exact (Code.bind_ok (waiterAt_eq found)).trans (Code.bind_error rfl)

end EventLifecycleSubscriber

def State.hear (state : State) (record : Json) : State :=
  { state with
    records := state.records ++ [record]
    waiters := state.waiters.filter (fun waiter => !waiter.seeks record)
    acks := state.acks + 1
    timers := state.timers.filter (spares record state.waiters)
    settlements := state.settlements ++ answers record state.waiters }

theorem State.hear_null (state : State) : state.hear .null =
    { state with records := state.records ++ [.null], acks := state.acks + 1 } := by
  have timers : state.timers.filter (spares .null state.waiters) = state.timers :=
    List.filter_eq_self.mpr (fun timer _ => List.all_eq_true.mpr (fun waiter _ => rfl))
  have waiters : state.waiters.filter (fun waiter => !waiter.seeks .null) = state.waiters :=
    List.filter_eq_self.mpr (fun waiter _ => rfl)
  have none : answers .null state.waiters = [] := by
    unfold answers
    rw [List.filter_eq_nil_iff.mpr (fun waiter _ => by exact Bool.false_ne_true)]
    rfl
  unfold State.hear
  rw [timers,waiters,none,List.append_nil]

namespace EventLifecycleSubscriber

variable {state : State}

/-- A record that is `null` stops the loop at its first waiter, and no waiter seeks it. -/
theorem consume_json (record : Json) : consume (some (.json record)) state = .ok () (state.hear record) := by
  let pushed : State := { state with records := state.records ++ [record] }
  by_cases null : record = .null
  · subst null
    rw [State.hear_null]
    rcases notifyWaiters_null pushed with done | ⟨error,threw⟩
    · exact Code.bind_ok (Code.tryCatch_ok (((Code.bind_ok rfl).trans (Code.bind_ok rfl)).trans done))
    · exact Code.bind_ok (Code.tryCatch_error (((Code.bind_ok rfl).trans (Code.bind_ok rfl)).trans threw))
  · have done := notifyWaiters_eq pushed null
    refine (Code.bind_ok (Code.tryCatch_ok (((Code.bind_ok rfl).trans (Code.bind_ok rfl)).trans done))).trans ?_
    unfold State.notify State.hear
    rw [List.append_nil]
    rfl

theorem wait_eq (sought : WaitFor) {number : Nat} (fresh : ∀ waiter ∈ state.waiters, waiter.call ≠ number) :
    wait number sought state = .ok () { state with
      waiters := state.waiters ++ [⟨number,sought,some number⟩], timers := state.timers ++ [number] } := by
  let enlisted : Waiter := ⟨number,sought,none⟩
  have replaced : (state.waiters ++ [enlisted]).map (fun waiter =>
      if waiter.call = number then { waiter with timer := some number } else waiter) =
      state.waiters ++ [⟨number,sought,some number⟩] := by
    rw [List.map_append,List.map_singleton,if_pos rfl]
    congr 1
    refine (List.map_congr_left (fun waiter member => ?_)).trans (List.map_id _)
    exact if_neg (fresh waiter member)
  refine (Code.bind_ok rfl).trans ((Code.bind_ok rfl).trans ?_)
  rw [← replaced]
  rfl

end EventLifecycleSubscriber

namespace State

open EventLifecycleSubscriber

variable (state : State)

def answer (sought : WaitFor) (outcome : Except Thrown Json) : State :=
  settle { state with calls := state.calls ++ [sought] } state.calls.length outcome

def enlist (sought : WaitFor) : State :=
  { state with
    waiters := state.waiters ++ [⟨state.calls.length,sought,some state.calls.length⟩]
    calls := state.calls ++ [sought]
    timers := state.timers ++ [state.calls.length] }

def dismiss (number : Nat) : State :=
  { state with
    waiters := state.waiters.eraseP (fun waiter => waiter.call == number)
    timers := state.timers.filter (· ≠ number) }

variable {state} {sought : WaitFor}

theorem callWaitFor_eq (readable : .null ∉ state.records.takeWhile (fun record => !sought.seeks record))
    (fresh : ∀ waiter ∈ state.waiters, waiter.call ≠ state.calls.length) :
    state.callWaitFor sought = match state.records.find? sought.seeks with
      | some record => state.answer sought (.ok record)
      | none => state.enlist sought := by
  let called : State := { state with calls := state.calls ++ [sought] }
  unfold callWaitFor
  dsimp only
  cases found : state.records.find? sought.seeks with
  | some record =>
    have done : waitFor state.calls.length sought called = .ok (some record) called := by
      refine (Code.bind_ok rfl).trans ?_
      rw [findM?_of_readable readable,found]
      rfl
    rw [done]
    rfl
  | none =>
    have done : waitFor state.calls.length sought called = .ok none (state.enlist sought) := by
      refine (Code.bind_ok rfl).trans ?_
      rw [findM?_of_readable readable,found]
      exact (Code.bind_ok rfl).trans (Code.bind_ok (wait_eq sought fresh))
    rw [done]

theorem callWaitFor_null (unreadable : .null ∈ state.records.takeWhile (fun record => !sought.seeks record)) :
    state.callWaitFor sought = state.answer sought (.error (typeError "null" "eventId")) := by
  let called : State := { state with calls := state.calls ++ [sought] }
  have threw : waitFor state.calls.length sought called = .error (typeError "null" "eventId") called := by
    refine (Code.bind_ok rfl).trans ?_
    rw [findM?_of_unreadable unreadable]
    rfl
  unfold callWaitFor
  dsimp only
  rw [threw]
  rfl

theorem withdraw_eq (state : State) (number : Nat) : withdraw number state =
    .ok () { state with waiters := state.waiters.eraseP (fun waiter => waiter.call == number) } := by
  rw [List.eraseP_eq_eraseIdx]
  refine (Code.bind_ok rfl).trans ?_
  cases state.waiters.findIdx? (fun waiter => waiter.call == number) <;> rfl

theorem perform_onTimeout (engine : Engine) (number : Nat) (readable : .null ∉ state.records) :
    perform { state with timers := state.timers.filter (· ≠ number) } (onTimeout engine number sought) =
      (state.dismiss number).settle number (.error (sought.timedOut engine (state.records.map stagesOf))) := by
  have done : onTimeout engine number sought { state with timers := state.timers.filter (· ≠ number) } =
      .ok () ((state.dismiss number).settle number
        (.error (sought.timedOut engine (state.records.map stagesOf)))) := by
    refine (Code.bind_ok (withdraw_eq _ number)).trans ((Code.bind_ok rfl).trans ?_)
    rw [mapM_stageOf readable]
    rfl
  unfold perform
  rw [done]

theorem perform_onTimeout_null (engine : Engine) (number : Nat) (unreadable : .null ∈ state.records) :
    ∃ error, perform { state with timers := state.timers.filter (· ≠ number) } (onTimeout engine number sought) =
      { state.dismiss number with uncaught := state.uncaught ++ [error] } := by
  obtain ⟨error,failed⟩ := mapM_stageOf_null unreadable
  have threw : onTimeout engine number sought { state with timers := state.timers.filter (· ≠ number) } =
      .error error (state.dismiss number) := by
    refine (Code.bind_ok (withdraw_eq _ number)).trans ((Code.bind_ok rfl).trans ?_)
    rw [failed]
    rfl
  refine ⟨error,?_⟩
  unfold perform
  rw [threw]
  rfl

end State

end MessagingPlatform.Lifecycle

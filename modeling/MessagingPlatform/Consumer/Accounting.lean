import MessagingPlatform.Lib.Counter
import MessagingPlatform.Lib.Ghost
import MessagingPlatform.Consumer.Attempts
import MessagingPlatform.Consumer.ExactlyOnce

/-! A history of what became of deliveries: which were counted, when the counter was cleared, and
which were followed by a retry copy or a requeue. The history accounts for the counters and the
retry copies of the state, and a delivery knows what is noted of it. -/
namespace MessagingPlatform.Consumer

inductive Note where
  | recorded (pid : Nat) (eventId : String) (attempt : Int)
  | cleared (eventId : String)
  | scheduled (pid : Nat)
  | requeued (pid : Nat)
  | deadLettered (pid : Nat)
  | failed (pid : Nat)
deriving DecidableEq

def Request.note? (state : State) (pid : Nat) : Request → Option Note
  | .recordAttempt eventId => some (.recorded pid eventId (state.attempts eventId + 1))
  | .clearAttempts eventId => some (.cleared eventId)
  | .publish _ _ => some (.scheduled pid)
  | .nack true => some (.requeued pid)
  | .nack false => some (.deadLettered pid)
  | .count (.messagesFailed _ _) => some (.failed pid)
  | _ => none

namespace Note

def pid? : Note → Option Nat
  | .recorded pid _ _ | .scheduled pid | .requeued pid | .deadLettered pid | .failed pid => some pid
  | .cleared _ => none

def entry? (eventId : String) : Note → Option (Counter.Entry Nat)
  | .recorded pid other attempt => if other = eventId then some (.counted pid attempt) else none
  | .cleared other => if other = eventId then some .reset else none
  | _ => none

def recordedFor? (eventId : String) : Note → Option Nat
  | .recorded pid other _ => if other = eventId then some pid else none
  | _ => none

def scheduledBy? : Note → Option Nat
  | .scheduled pid => some pid
  | _ => none

def requeuedBy? : Note → Option Nat
  | .requeued pid => some pid
  | _ => none

def redeliveredBy? : Note → Option Nat
  | .scheduled pid | .requeued pid => some pid
  | _ => none

end Note

abbrev History := List Note

def History.note (history : History) (state : State) : Effect Request Choice External Task → History
  | .performs pid request _ => history ++ (request.note? state pid).toList
  | _ => history

def History.redelivered (history : History) (pid : Nat) : Bool :=
  history.any (fun note => note.redeliveredBy? == some pid)

def budgetWorld (settings : Settings) :
    World (State × History) Thrown Request Reply Choice External Task :=
  (consumerWorld settings).withGhost History.note

abbrev BudgetPool := Pool (State × History) Thrown Request Reply

variable {settings : Settings} {fresh pid : Nat} {history : History} {before after state : State}

theorem History.redelivered_append {note : Note} : History.redelivered (history ++ [note]) pid = true ↔
    history.redelivered pid = true ∨ note.redeliveredBy? = some pid := by
  simp [History.redelivered]

theorem History.redelivered_iff : history.redelivered pid = true ↔
    pid ∈ history.filterMap Note.scheduledBy? ∨ pid ∈ history.filterMap Note.requeuedBy? := by
  simp only [History.redelivered,List.any_eq_true,beq_iff_eq,List.mem_filterMap]
  constructor
  · intro found
    obtain ⟨note,member,by_⟩ := found
    cases note with
    | scheduled other => exact .inl ⟨_,member,by_⟩
    | requeued other => exact .inr ⟨_,member,by_⟩
    | recorded _ _ _ | cleared _ | deadLettered _ | failed _ => cases by_
  · intro found
    rcases found with ⟨note,member,by_⟩ | ⟨note,member,by_⟩
    · refine ⟨note,member,?_⟩
      cases note <;> first | exact by_ | cases by_
    · refine ⟨note,member,?_⟩
      cases note <;> first | exact by_ | cases by_

/-- The counters and the retry copies after a request are those that its note accounts for. -/
theorem State.serve_noted {request : Request} {choice : Choice} {reply : Except Thrown (Reply request)}
    (served : before.serve pid request choice = some (reply,after)) :
    (∀ eventId, after.attempts eventId = Counter.value (before.attempts eventId)
      ((request.note? before pid).toList.filterMap (Note.entry? eventId))) ∧
    after.publishes.map RetryPublish.publisher = before.publishes.map RetryPublish.publisher ++
      (request.note? before pid).toList.filterMap Note.scheduledBy? := by
  cases request with
  | recordAttempt eventId | clearAttempts eventId =>
    obtain ⟨_,rfl⟩ := Prod.mk.inj (Option.some.inj served)
    refine ⟨?_,by simp [Request.note?,Note.scheduledBy?]⟩
    intro other
    by_cases same : eventId = other
    · subst same
      simp [Request.note?,Note.entry?,Counter.value]
    · simp [Request.note?,Note.entry?,same,Function.update_of_ne (Ne.symm same)]
  | publish channel publication =>
    obtain ⟨_,rfl⟩ := Prod.mk.inj (Option.some.inj served)
    exact ⟨fun _ => rfl,List.map_append⟩
  | ack =>
    obtain ⟨_,rfl⟩ := settle_eq served
    split <;> exact ⟨fun _ => rfl,(List.append_nil _).symm⟩
  | nack requeue =>
    cases requeue <;> obtain ⟨_,rfl⟩ := settle_eq served <;> split <;>
      exact ⟨fun _ => rfl,(List.append_nil _).symm⟩
  | count metric =>
    obtain ⟨_,rfl⟩ := Prod.mk.inj (Option.some.inj served)
    cases metric <;> exact ⟨fun _ => rfl,(List.append_nil _).symm⟩
  | lifecycle _ | connect | rollbackTransaction | release | newDate | randomUUID | getChannel =>
    obtain ⟨_,rfl⟩ := Prod.mk.inj (Option.some.inj served)
    exact ⟨fun _ => rfl,(List.append_nil _).symm⟩
  | startTransaction =>
    simp only [serve] at served
    split at served
    next =>
      obtain ⟨_,rfl⟩ := Prod.mk.inj (Option.some.inj served)
      exact ⟨fun _ => rfl,(List.append_nil _).symm⟩
    next => cases served
  | saveProcessedEvent row =>
    rcases serve_saveProcessedEvent served with ⟨_,rfl,_⟩ | ⟨_,rfl,_⟩
    · exact ⟨fun _ => rfl,(List.append_nil _).symm⟩
    · exact ⟨fun _ => rfl,(List.append_nil _).symm⟩
  | saveMessage _ | saveOutboxEvent _ | commitTransaction | inject | waitForConfirms _ =>
    simp only [serve,Option.ite_none_right_eq_some,Option.some.injEq,Prod.mk.injEq] at served
    obtain ⟨_,_,rfl⟩ := served
    exact ⟨fun _ => rfl,(List.append_nil _).symm⟩

theorem State.settlePublish_publishers {index : Nat} {published : RetryPublish} {fate : Fate}
    (found : state.publishes[index]? = some published) :
    (state.settlePublish index published fate).publishes.map RetryPublish.publisher =
      state.publishes.map RetryPublish.publisher := by
  obtain ⟨bound,same⟩ := List.getElem?_eq_some_iff.mp found
  have mapped : index < (state.publishes.map RetryPublish.publisher).length := by simpa using bound
  have balanced : published.publisher = (state.publishes.map RetryPublish.publisher)[index] := by simp [same]
  rw [State.settlePublish,List.map_set,balanced,List.set_getElem_self]

theorem State.external_noted {event : External} (happened : before.external event = some after) :
    after.attempts = before.attempts ∧
      after.publishes.map RetryPublish.publisher = before.publishes.map RetryPublish.publisher := by
  cases event with
  | enqueue body headers =>
    simp only [external,Option.map_eq_some_iff] at happened
    obtain ⟨queues,_,rfl⟩ := happened
    exact ⟨rfl,rfl⟩
  | route index =>
    simp only [external] at happened
    split at happened
    next published found =>
      split at happened
      next =>
        split at happened
        next =>
          obtain rfl := Option.some.inj happened
          exact ⟨rfl,settlePublish_publishers found⟩
        next =>
          obtain rfl := Option.some.inj happened
          exact ⟨rfl,settlePublish_publishers found⟩
      next => cases happened
    next => cases happened
  | reject index =>
    simp only [external] at happened
    split at happened
    next published found =>
      split at happened
      next =>
        obtain rfl := Option.some.inj happened
        exact ⟨rfl,settlePublish_publishers found⟩
      next => cases happened
    next => cases happened
  | requeue _ | expire _ | logDlq _ | abort _ =>
    obtain rfl := Option.some.inj happened
    exact ⟨rfl,rfl⟩
  | rejectUnmatched _ | handleTestRabbit _ _ =>
    simp only [external,Option.ite_none_right_eq_some,Option.some.injEq] at happened
    obtain ⟨_,rfl⟩ := happened
    exact ⟨rfl,rfl⟩

theorem nodup_filterMap_append {Item Key : Type} {key : Item → Option Key} {items : List Item} {item : Item}
    (distinct : (items.filterMap key).Nodup)
    (fresh : ∀ value, key item = some value → value ∉ items.filterMap key) :
    ((items ++ [item]).filterMap key).Nodup := by
  rw [List.filterMap_append]
  cases found : key item with
  | none => simpa [found] using distinct
  | some value =>
    have absent := fresh value found
    simp only [List.filterMap_cons,found,List.filterMap_nil]
    apply List.Nodup.append distinct (List.nodup_singleton value)
    intro other old new
    obtain rfl := List.mem_singleton.mp new
    exact absent old

structure Balanced (settings : Settings) (fresh : Nat) (history : History) (state : State) : Prop where
  numbered : ∀ eventId, Counter.Numbered 0 (history.filterMap (Note.entry? eventId))
  current : ∀ eventId, Counter.value 0 (history.filterMap (Note.entry? eventId)) = state.attempts eventId
  started : ∀ note ∈ history, ∀ pid, note.pid? = some pid → pid < fresh
  delivered : ∀ pid eventId attempt, .recorded pid eventId attempt ∈ history →
    state.deliveredEvent settings pid = some eventId
  within : ∀ pid eventId attempt, .recorded pid eventId attempt ∈ history →
    history.redelivered pid = true → attempt < RetryConfig.maxAttempts
  counted : ∀ pid, history.redelivered pid = true → ∃ eventId attempt, .recorded pid eventId attempt ∈ history
  cleared : ∀ eventId, .cleared eventId ∈ history → state.Processed eventId
  copies : state.publishes.map RetryPublish.publisher = history.filterMap Note.scheduledBy?
  scheduledOnce : (history.filterMap Note.scheduledBy?).Nodup
  requeuedOnce : (history.filterMap Note.requeuedBy?).Nodup

def Spendable (history : History) (pid : Nat) : Prop :=
  (∃ eventId attempt, .recorded pid eventId attempt ∈ history) ∧
  ∀ eventId attempt, .recorded pid eventId attempt ∈ history → attempt < RetryConfig.maxAttempts

def Earned (settings : Settings) (fresh : Nat) (history : History) (state : State) : Note → Prop
  | .recorded pid eventId attempt => pid < fresh ∧ attempt = state.attempts eventId + 1 ∧
      state.deliveredEvent settings pid = some eventId ∧ history.redelivered pid = false
  | .cleared eventId => state.Processed eventId
  | .scheduled pid => pid < fresh ∧ Spendable history pid ∧ .scheduled pid ∉ history
  | .requeued pid => pid < fresh ∧ Spendable history pid ∧ .requeued pid ∉ history
  | .deadLettered pid | .failed pid => pid < fresh

namespace Earned

variable {note : Note}

theorem started (earned : Earned settings fresh history state note) (own : note.pid? = some pid) :
    pid < fresh := by
  cases note with
  | recorded _ _ _ | scheduled _ | requeued _ => exact Option.some.inj own ▸ earned.1
  | deadLettered _ | failed _ => exact Option.some.inj own ▸ earned
  | cleared _ => cases own

theorem numbered (earned : Earned settings fresh history state note) (eventId : String) :
    Counter.Numbered (state.attempts eventId) ([note].filterMap (Note.entry? eventId)) := by
  cases note with
  | recorded pid other attempt =>
    obtain ⟨_,rfl,_⟩ := earned
    by_cases same : other = eventId
    · subst same
      simp [Note.entry?,Counter.Numbered]
    · simp [Note.entry?,same]
  | cleared other => by_cases same : other = eventId <;> simp [Note.entry?,same,Counter.Numbered]
  | scheduled _ | requeued _ | deadLettered _ | failed _ => trivial

theorem spends (earned : Earned settings fresh history state note) (redelivers : note.redeliveredBy? = some pid) :
    Spendable history pid := by
  cases note with
  | scheduled _ | requeued _ => exact Option.some.inj redelivers ▸ earned.2.1
  | recorded _ _ _ | cleared _ | deadLettered _ | failed _ => cases redelivers

theorem schedulesOnce (earned : Earned settings fresh history state note) (own : note.scheduledBy? = some pid) :
    pid ∉ history.filterMap Note.scheduledBy? := by
  intro among
  obtain ⟨other,member,same⟩ := List.mem_filterMap.mp among
  cases note <;> cases own
  cases other <;> cases same
  exact earned.2.2 member

theorem requeuesOnce (earned : Earned settings fresh history state note) (own : note.requeuedBy? = some pid) :
    pid ∉ history.filterMap Note.requeuedBy? := by
  intro among
  obtain ⟨other,member,same⟩ := List.mem_filterMap.mp among
  cases note <;> cases own
  cases other <;> cases same
  exact earned.2.2 member

end Earned

structure Preserves (settings : Settings) (fresh : Nat) (before after : State) : Prop where
  delivered : ∀ pid eventId, pid < fresh → before.deliveredEvent settings pid = some eventId →
    after.deliveredEvent settings pid = some eventId
  processed : ∀ eventId, before.Processed eventId → after.Processed eventId

namespace Balanced

theorem congr (balanced : Balanced settings fresh history before) {next : Nat} (older : fresh ≤ next)
    (preserves : Preserves settings fresh before after)
    (attempts : ∀ eventId, after.attempts eventId = before.attempts eventId)
    (publishes : after.publishes.map RetryPublish.publisher = before.publishes.map RetryPublish.publisher) :
    Balanced settings next history after where
  numbered := balanced.numbered
  current eventId := (balanced.current eventId).trans (attempts eventId).symm
  started note member pid own := (balanced.started note member pid own).trans_le older
  delivered pid eventId attempt member := preserves.delivered _ _ (balanced.started _ member pid rfl)
    (balanced.delivered pid eventId attempt member)
  within := balanced.within
  counted := balanced.counted
  cleared eventId member := preserves.processed _ (balanced.cleared eventId member)
  copies := publishes.trans balanced.copies
  scheduledOnce := balanced.scheduledOnce
  requeuedOnce := balanced.requeuedOnce

theorem append (balanced : Balanced settings fresh history before) {note : Note}
    (earned : Earned settings fresh history before note) (preserves : Preserves settings fresh before after)
    (attempts : ∀ eventId, after.attempts eventId =
      Counter.value (before.attempts eventId) ([note].filterMap (Note.entry? eventId)))
    (publishes : after.publishes.map RetryPublish.publisher =
      before.publishes.map RetryPublish.publisher ++ [note].filterMap Note.scheduledBy?) :
    Balanced settings fresh (history ++ [note]) after where
  numbered eventId := by
    rw [List.filterMap_append]
    apply Counter.numbered_append.mpr
    rw [balanced.current]
    exact ⟨balanced.numbered eventId,earned.numbered eventId⟩
  current eventId := by
    rw [List.filterMap_append,Counter.value_append,balanced.current]
    exact (attempts eventId).symm
  started other member pid own := by
    rcases List.mem_append.mp member with old | new
    · exact balanced.started other old pid own
    · obtain rfl := List.mem_singleton.mp new
      exact earned.started own
  delivered pid eventId attempt member := by
    rcases List.mem_append.mp member with old | new
    · exact preserves.delivered _ _ (balanced.started _ old pid rfl) (balanced.delivered pid eventId attempt old)
    · obtain rfl := List.mem_singleton.mp new
      exact preserves.delivered _ _ earned.1 earned.2.2.1
  within pid eventId attempt member redelivered := by
    rcases List.mem_append.mp member with old | new
    · rcases History.redelivered_append.mp redelivered with before | now
      · exact balanced.within pid eventId attempt old before
      · exact (earned.spends now).2 eventId attempt old
    · obtain rfl := List.mem_singleton.mp new
      have unspent := earned.2.2.2
      rcases History.redelivered_append.mp redelivered with before | now
      · rw [unspent] at before
        cases before
      · cases now
  counted pid redelivered := by
    have found : ∃ eventId attempt, .recorded pid eventId attempt ∈ history := by
      rcases History.redelivered_append.mp redelivered with before | now
      · exact balanced.counted pid before
      · exact (earned.spends now).1
    obtain ⟨eventId,attempt,member⟩ := found
    exact ⟨eventId,attempt,List.mem_append_left _ member⟩
  cleared eventId member := by
    apply preserves.processed
    rcases List.mem_append.mp member with old | new
    · exact balanced.cleared eventId old
    · obtain rfl := List.mem_singleton.mp new
      exact earned
  copies := by rw [publishes,balanced.copies,List.filterMap_append]
  scheduledOnce := nodup_filterMap_append balanced.scheduledOnce (fun _ => earned.schedulesOnce)
  requeuedOnce := nodup_filterMap_append balanced.requeuedOnce (fun _ => earned.requeuesOnce)

/-- Between two clearings, at most four of the counted deliveries are followed by another one. -/
theorem redelivered_le (balanced : Balanced settings fresh history state) {eventId : String}
    {earlier segment later : History} (split : history = earlier ++ segment ++ later)
    (uncleared : .cleared eventId ∉ segment) :
    ((segment.filterMap (Note.recordedFor? eventId)).filter history.redelivered).length ≤
      (RetryConfig.maxAttempts - 1).toNat := by
  have numbered := balanced.numbered eventId
  rw [split,List.filterMap_append,List.filterMap_append] at numbered
  obtain ⟨first,counted⟩ := Counter.numbered_append.mp (Counter.numbered_append.mp numbered).1
  have start := first.value_nonneg (Int.le_refl 0)
  have ids : segment.filterMap (Note.recordedFor? eventId) =
      (segment.filterMap (Note.entry? eventId)).filterMap Counter.Entry.id? := by
    rw [List.filterMap_filterMap]
    congr 1
    funext note
    cases note with
    | recorded _ other _ | cleared other =>
      by_cases same : other = eventId <;> simp [Note.recordedFor?,Note.entry?,same,Counter.Entry.id?]
    | scheduled _ | requeued _ | deadLettered _ | failed _ => rfl
  have unreset : Counter.Entry.reset ∉ segment.filterMap (Note.entry? eventId) := by
    intro among
    obtain ⟨note,member,reset⟩ := List.mem_filterMap.mp among
    cases note with
    | cleared other =>
      simp only [Note.entry?,Option.ite_none_right_eq_some] at reset
      exact uncleared (reset.1 ▸ member)
    | recorded pid other attempt => simp [Note.entry?] at reset
    | scheduled _ | requeued _ | deadLettered _ | failed _ => cases reset
  have spent := @Counter.Numbered.spenders_le _ _ RetryConfig.maxAttempts _ counted unreset history.redelivered
  rw [ids]
  refine (spent ?_).trans (by omega)
  intro pid attempt among redelivered
  obtain ⟨note,member,entry⟩ := List.mem_filterMap.mp among
  have present : note ∈ history := by
    rw [split]
    exact List.mem_append_left _ (List.mem_append_right _ member)
  cases note with
  | recorded other event count =>
    simp only [Note.entry?,Option.ite_none_right_eq_some,Option.some.injEq,Counter.Entry.counted.injEq] at entry
    obtain ⟨_,rfl,rfl⟩ := entry
    exact balanced.within _ _ _ present redelivered
  | cleared other => simp [Note.entry?] at entry
  | scheduled _ | requeued _ | deadLettered _ | failed _ => cases entry

end Balanced

structure Known (pid : Nat) (history : History) (budget : Budget) : Prop where
  unasked : budget.asked = false → budget.count = none ∧
    ∀ eventId attempt, .recorded pid eventId attempt ∉ history
  counted : ∀ count, budget.count = some count → (∃ eventId, .recorded pid eventId count ∈ history) ∧
    ∀ eventId attempt, .recorded pid eventId attempt ∈ history → attempt = count
  unscheduled : budget.scheduled = false → .scheduled pid ∉ history
  unrequeued : budget.requeued = false → .requeued pid ∉ history
  failed : .failed pid ∈ history → budget.failed = true
  dead : budget.dead = true → .deadLettered pid ∈ history

namespace Known

variable {budget next : Budget} {notes : List Note}

theorem follow (known : Known pid history budget) (asked : next.asked = budget.asked)
    (count : next.count = budget.count) (unrecorded : ∀ eventId attempt, .recorded pid eventId attempt ∉ notes)
    (scheduled : next.scheduled = false → budget.scheduled = false ∧ .scheduled pid ∉ notes)
    (requeued : next.requeued = false → budget.requeued = false ∧ .requeued pid ∉ notes)
    (failed : budget.failed = true ∨ .failed pid ∈ notes → next.failed = true)
    (dead : next.dead = true → budget.dead = true ∨ .deadLettered pid ∈ notes) :
    Known pid (history ++ notes) next where
  unasked unasked := by
    obtain ⟨uncounted,fresh⟩ := known.unasked (asked ▸ unasked)
    refine ⟨count.trans uncounted,?_⟩
    intro eventId attempt member
    rcases List.mem_append.mp member with old | new
    · exact fresh eventId attempt old
    · exact unrecorded eventId attempt new
  counted value counted := by
    obtain ⟨⟨eventId,present⟩,unique⟩ := known.counted value (count.symm.trans counted)
    refine ⟨⟨eventId,List.mem_append_left _ present⟩,?_⟩
    intro other attempt member
    rcases List.mem_append.mp member with old | new
    · exact unique other attempt old
    · exact absurd new (unrecorded other attempt)
  unscheduled unscheduled member := by
    obtain ⟨unspent,absent⟩ := scheduled unscheduled
    rcases List.mem_append.mp member with old | new
    · exact known.unscheduled unspent old
    · exact absent new
  unrequeued unrequeued member := by
    obtain ⟨unspent,absent⟩ := requeued unrequeued
    rcases List.mem_append.mp member with old | new
    · exact known.unrequeued unspent old
    · exact absent new
  failed member := by
    apply failed
    rcases List.mem_append.mp member with old | new
    · exact .inl (known.failed old)
    · exact .inr new
  dead deadLettered := by
    rcases dead deadLettered with old | new
    · exact List.mem_append_left _ (known.dead old)
    · exact List.mem_append_right _ new

theorem append (known : Known pid history budget) (others : ∀ note ∈ notes, note.pid? ≠ some pid) :
    Known pid (history ++ notes) budget := by
  apply known.follow rfl rfl
  · intro eventId attempt member
    exact others _ member rfl
  · exact fun unscheduled => ⟨unscheduled,fun member => others _ member rfl⟩
  · exact fun unrequeued => ⟨unrequeued,fun member => others _ member rfl⟩
  · intro failed
    exact failed.resolve_right (fun member => others _ member rfl)
  · exact .inl

theorem start (unstarted : ∀ note ∈ history, note.pid? ≠ some pid) (eventId : Option String) :
    Known pid history (.start eventId) where
  unasked _ := ⟨rfl,fun _ _ member => unstarted _ member rfl⟩
  counted _ impossible := by cases impossible
  unscheduled _ member := unstarted _ member rfl
  unrequeued _ member := unstarted _ member rfl
  failed member := absurd rfl (unstarted _ member)
  dead impossible := by cases impossible

/-- A delivery that has asked for its count is given the one that is noted, or none. -/
theorem ask (known : Known pid history budget) (unasked : budget.asked = false) {attempt : Int}
    (records : ∀ note ∈ notes, ∃ eventId, note = .recorded pid eventId attempt) {count : Option Int}
    (given : count = none ∨ count = some attempt ∧ notes ≠ []) :
    Known pid (history ++ notes) { budget with asked := true, count } := by
  obtain ⟨_,unrecorded⟩ := known.unasked unasked
  have older : ∀ note : Note, (∀ eventId, note ≠ .recorded pid eventId attempt) → note ∈ history ++ notes →
      note ∈ history := by
    intro note different member
    rcases List.mem_append.mp member with old | new
    · exact old
    · obtain ⟨eventId,same⟩ := records note new
      exact absurd same (different eventId)
  constructor
  · intro impossible
    cases impossible
  · intro value counted
    have counted : count = some value := counted
    rcases given with rfl | ⟨rfl,noted⟩
    · cases counted
    · obtain rfl := Option.some.inj counted
      obtain ⟨note,member⟩ := List.exists_mem_of_ne_nil _ noted
      obtain ⟨eventId,rfl⟩ := records note member
      refine ⟨⟨eventId,List.mem_append_right _ member⟩,?_⟩
      intro other count present
      rcases List.mem_append.mp present with old | new
      · exact absurd old (unrecorded other count)
      · obtain ⟨_,same⟩ := records _ new
        cases same
        rfl
  · intro unscheduled member
    exact known.unscheduled unscheduled (older _ (by simp) member)
  · intro unrequeued member
    exact known.unrequeued unrequeued (older _ (by simp) member)
  · intro member
    exact known.failed (older _ (by simp) member)
  · intro dead
    exact List.mem_append_left _ (known.dead dead)

theorem refused (known : Known pid history budget) {request : Request} (error : Thrown)
    (allowed : budgeting.allows budget request) : Known pid history (budget.observe request (.error error)) := by
  rw [← List.append_nil history]
  cases request with
  | recordAttempt eventId =>
    have records : ∀ note ∈ ([] : List Note), ∃ other, note = .recorded pid other 0 := by simp
    exact known.ask allowed.1 records (.inl (known.unasked allowed.1).1)
  | count metric =>
    cases metric <;> exact known.follow rfl rfl (by simp) (by simp [Budget.observe]) (by simp [Budget.observe])
      (by simp [Budget.observe]) (by simp [Budget.observe])
  | nack requeue =>
    cases requeue <;> exact known.follow rfl rfl (by simp) (by simp [Budget.observe]) (by simp [Budget.observe])
      (by simp [Budget.observe]) (by simp [Budget.observe])
  | _ =>
    exact known.follow rfl rfl (by simp) (by simp [Budget.observe]) (by simp [Budget.observe])
      (by simp [Budget.observe]) (by simp [Budget.observe])

theorem serve (known : Known pid history budget) {request : Request} {choice : Choice}
    {reply outcome : Except Thrown (Reply request)} (allowed : budgeting.allows budget request)
    (served : state.serve pid request choice = some (reply,after))
    (possible : outcome = reply ∨ ∃ error, outcome = .error error) :
    Known pid (history ++ (request.note? state pid).toList) (budget.observe request outcome) := by
  cases request with
  | recordAttempt eventId =>
    obtain ⟨replied,_⟩ := Prod.mk.inj (Option.some.inj served)
    have records : ∀ note ∈ [Note.recorded pid eventId (state.attempts eventId + 1)],
        ∃ other, note = .recorded pid other (state.attempts eventId + 1) := by
      intro note member
      exact ⟨eventId,List.mem_singleton.mp member⟩
    rcases possible with rfl | ⟨error,rfl⟩
    · subst replied
      exact known.ask allowed.1 records (.inr ⟨rfl,by simp⟩)
    · exact known.ask allowed.1 records (.inl (known.unasked allowed.1).1)
  | count metric =>
    cases metric <;> cases outcome <;> exact known.follow rfl rfl (by simp [Request.note?])
      (by simp [Request.note?,Budget.observe]) (by simp [Request.note?,Budget.observe])
      (by simp [Request.note?,Budget.observe]) (by simp [Request.note?,Budget.observe])
  | nack requeue =>
    cases requeue <;> cases outcome <;> exact known.follow rfl rfl (by simp [Request.note?])
      (by simp [Request.note?,Budget.observe]) (by simp [Request.note?,Budget.observe])
      (by simp [Request.note?,Budget.observe]) (by simp [Request.note?,Budget.observe])
  | _ =>
    cases outcome <;> exact known.follow rfl rfl (by simp [Request.note?])
      (by simp [Request.note?,Budget.observe]) (by simp [Request.note?,Budget.observe])
      (by simp [Request.note?,Budget.observe]) (by simp [Request.note?,Budget.observe])

theorem spendable (known : Known pid history budget) (within : budget.Within) : Spendable history pid := by
  obtain ⟨count,counted,room⟩ := within
  obtain ⟨⟨eventId,member⟩,unique⟩ := known.counted count counted
  refine ⟨⟨eventId,count,member⟩,?_⟩
  intro other attempt recorded
  exact unique other attempt recorded ▸ room

theorem earned (known : Known pid history budget) (balanced : Balanced settings fresh history state)
    (below : pid < fresh)
    (event : ∀ eventId, budget.eventId = some eventId → state.deliveredEvent settings pid = some eventId)
    (concluded : budget.concluded = true → ∀ eventId, budget.eventId = some eventId → state.Processed eventId)
    {request : Request} (allowed : budgeting.allows budget request) {note : Note}
    (noted : request.note? state pid = some note) : Earned settings fresh history state note := by
  cases request with
  | recordAttempt eventId =>
    obtain rfl := Option.some.inj noted
    refine ⟨below,rfl,event eventId allowed.2,?_⟩
    by_contra spent
    obtain ⟨other,count,member⟩ := balanced.counted pid (by simpa using spent)
    exact (known.unasked allowed.1).2 other count member
  | clearAttempts eventId =>
    obtain rfl := Option.some.inj noted
    exact concluded allowed.1 eventId allowed.2
  | publish channel publication =>
    obtain rfl := Option.some.inj noted
    exact ⟨below,known.spendable allowed.1,known.unscheduled allowed.2⟩
  | nack requeue =>
    cases requeue with
    | true =>
      obtain rfl := Option.some.inj noted
      exact ⟨below,known.spendable allowed.1,known.unrequeued allowed.2⟩
    | false =>
      obtain rfl := Option.some.inj noted
      exact below
  | count metric =>
    cases metric with
    | messagesFailed _ _ =>
      obtain rfl := Option.some.inj noted
      exact below
    | messagesProcessed _ _ | retryCount _ => cases noted
  | _ => cases noted

end Known

end MessagingPlatform.Consumer

import MessagingPlatform.Idempotency.Ledger

/-! Which call wins an event. The row of the event names the call that inserted it; the calls that find
it there return what it holds. -/
namespace MessagingPlatform.Idempotency
open IdempotencyService

namespace State

section fields
variable (state : State) (eventId : String) (number : Nat) (call : Call) (row : ProcessedEvent) (entry : Entry)

@[simp] theorem hold_rows : (state.hold eventId number row).rows = state.rows := rfl
@[simp] theorem hold_calls : (state.hold eventId number row).calls = state.calls := rfl
@[simp] theorem insert_pending : (state.insert eventId entry).pending = state.pending := rfl
@[simp] theorem insert_calls : (state.insert eventId entry).calls = state.calls := rfl
@[simp] theorem resume_rows : (state.resume number call).rows = state.rows := rfl
@[simp] theorem resume_pending : (state.resume number call).pending = state.pending := rfl
@[simp] theorem release_rows : (state.release eventId).rows = state.rows := rfl
@[simp] theorem release_calls : (state.release eventId).calls = state.calls := rfl

@[simp] theorem hold_pending_self : (state.hold eventId number row).pending eventId = some (number,row) :=
  Function.update_self _ _ _

@[simp] theorem insert_rows_self : (state.insert eventId entry).rows eventId = some entry :=
  Function.update_self _ _ _

@[simp] theorem resume_calls_self : (state.resume number call).calls number = some call :=
  Function.update_self _ _ _

@[simp] theorem release_pending_self : (state.release eventId).pending eventId = none :=
  Function.update_self _ _ _

variable {state eventId number}

theorem hold_pending_of_ne {other : String} (differs : other ≠ eventId) :
    (state.hold eventId number row).pending other = state.pending other := Function.update_of_ne differs _ _

theorem insert_rows_of_ne {other : String} (differs : other ≠ eventId) :
    (state.insert eventId entry).rows other = state.rows other := Function.update_of_ne differs _ _

theorem resume_calls_of_ne {other : Nat} (differs : other ≠ number) :
    (state.resume number call).calls other = state.calls other := Function.update_of_ne differs _ _

theorem release_pending_of_ne {other : String} (differs : other ≠ eventId) :
    (state.release eventId).pending other = state.pending other := Function.update_of_ne differs _ _

end fields
end State

def afterSave (options : MarkProcessedOptions) : Except Thrown ProcessedEvent → Program IdempotencyResult
  | .ok saved => .resolve (.recorded saved.processedAt)
  | .error error =>
      if extractPgCode error = some "23505" then duplicateOf options.eventId else .reject error

theorem checkAndMark_eq (options : MarkProcessedOptions) :
    checkAndMark options = .await (.save options) (afterSave options) := by
  refine congrArg (Async.await (Request.save options)) ?_
  funext answer
  cases answer <;> rfl

def afterFind : Except Thrown (Option ProcessedEvent) → Program IdempotencyResult
  | .ok (some row) => .resolve (.duplicate { processedAt := row.processedAt, result := some row.result })
  | .ok none => (Async.call Request.newDate : Program Int).bind
      (fun now => .resolve (.duplicate { processedAt := now, result := none }))
  | .error error => .reject error

theorem duplicateOf_eq (eventId : String) : duplicateOf eventId = .await (.findOne eventId) afterFind := by
  refine congrArg (Async.await (Request.findOne eventId)) ?_
  funext answer
  cases answer with
  | error error => rfl
  | ok existing => cases existing <;> rfl

theorem extractPgCode_of_carries {error : Thrown} {code : String} (carries : Carries error code) :
    extractPgCode error = some code := by
  unfold extractPgCode
  obtain ⟨outer,-⟩ | ⟨outer,inner⟩ := carries
  · rw [outer,Option.some_or]
  · rw [outer,Option.none_or,inner]

theorem extractPgCode_of_not_mentions {error : Thrown} {code : String} (other : ¬ Mentions error code) :
    extractPgCode error ≠ some code := by
  unfold extractPgCode
  intro same
  apply other
  cases outer : error.code with
  | some found => exact .inl (by rw [outer] at same; exact outer.trans same)
  | none => exact .inr (by rw [outer] at same; exact same)

inductive Situation (rows : String → Option Entry) (number : Nat) (call : Call) : Prop
  | saving (same : call.program = checkAndMark call.options)
  | reading {entry : Entry} (same : call.program = duplicateOf call.options.eventId)
      (present : rows call.options.eventId = some entry) (other : entry.author ≠ some number)
  | recorded {entry : Entry} (same : call.program = .resolve (.recorded entry.row.processedAt))
      (present : rows call.options.eventId = some entry) (own : entry.author = some number)
  | duplicate {entry : Entry} (same : call.program = .resolve (.duplicate
        { processedAt := entry.row.processedAt, result := some entry.row.result }))
      (present : rows call.options.eventId = some entry) (other : entry.author ≠ some number)
  | rejected {error : Thrown} (same : call.program = .reject error)

theorem Situation.mono {rows later : String → Option Entry} {number : Nat} {call : Call}
    (kept : ∀ eventId entry, rows eventId = some entry → later eventId = some entry)
    (situation : Situation rows number call) : Situation later number call := by
  cases situation with
  | saving same => exact .saving same
  | reading same present other => exact .reading same (kept _ _ present) other
  | recorded same present own => exact .recorded same (kept _ _ present) own
  | duplicate same present other => exact .duplicate same (kept _ _ present) other
  | rejected same => exact .rejected same

variable {column : Option Json → Option Json} {initial : String → Option ProcessedEvent}

structure Consistent (column : Option Json → Option Json) (initial : String → Option ProcessedEvent)
    (state : State) : Prop where
  calls : ∀ number call, state.calls number = some call → Situation state.rows number call
  /-- A row that a call inserted is the row of its options, and the call has recorded it. -/
  authors : ∀ eventId entry number, state.rows eventId = some entry → entry.author = some number →
    ∃ call, state.calls number = some call ∧ call.options.eventId = eventId ∧
      call.program = .resolve (.recorded entry.row.processedAt) ∧
      entry.row = call.options.row column entry.row.processedAt
  olds : ∀ eventId entry, state.rows eventId = some entry → entry.author = none →
    initial eventId = some entry.row
  pendings : ∀ eventId number row, state.pending eventId = some (number,row) →
    state.rows eventId = none ∧ ∃ call, state.calls number = some call ∧ call.options.eventId = eventId ∧
      call.program = checkAndMark call.options ∧ row = call.options.row column row.processedAt

inductive Moves (column : Option Json → Option Json) (state : State) : State → Prop
  | start {number options} (free : state.calls number = none) :
      Moves column state (state.resume number ⟨options,checkAndMark options⟩)
  | inserts {number options} (processedAt : Int)
      (saving : state.calls number = some ⟨options,checkAndMark options⟩)
      (absent : state.rows options.eventId = none) (free : state.pending options.eventId = none) :
      Moves column state (state.hold options.eventId number (options.row column processedAt))
  | commits {number options row} (saving : state.calls number = some ⟨options,checkAndMark options⟩)
      (held : state.pending options.eventId = some (number,row)) :
      Moves column state (((state.release options.eventId).insert options.eventId ⟨row,some number⟩).resume
        number ⟨options,.resolve (.recorded row.processedAt)⟩)
  | violates {number options entry} (saving : state.calls number = some ⟨options,checkAndMark options⟩)
      (present : state.rows options.eventId = some entry) :
      Moves column state (state.resume number ⟨options,duplicateOf options.eventId⟩)
  | aborts {number options error row} (saving : state.calls number = some ⟨options,checkAndMark options⟩)
      (held : state.pending options.eventId = some (number,row)) :
      Moves column state ((state.release options.eventId).resume number ⟨options,.reject error⟩)
  | finds {number options entry}
      (reading : state.calls number = some ⟨options,duplicateOf options.eventId⟩)
      (present : state.rows options.eventId = some entry) :
      Moves column state (state.resume number ⟨options,.resolve (.duplicate
        { processedAt := entry.row.processedAt, result := some entry.row.result })⟩)
  | refuses {number options error} (saving : state.calls number = some ⟨options,checkAndMark options⟩)
      (unheld : ¬ state.Holds number options.eventId) :
      Moves column state (state.resume number ⟨options,.reject error⟩)
  | loses {number options error} (reading : state.calls number = some ⟨options,duplicateOf options.eventId⟩) :
      Moves column state (state.resume number ⟨options,.reject error⟩)

theorem step_start {state after : State} {number : Nat} {options : MarkProcessedOptions}
    (taken : state.step column (.start number options) = some after) :
    state.calls number = none ∧ after = state.resume number ⟨options,checkAndMark options⟩ := by
  simp only [State.step,Option.ite_none_left_eq_some,Option.some.injEq] at taken
  exact ⟨by simpa using taken.1,taken.2.symm⟩

/-- A request is served, and its call goes on if there is an answer. -/
theorem step_perform {state after : State} {number : Nat} {event : Event}
    (taken : state.step column (.perform number event) = some after) :
    ∃ options request next ledger reply, state.calls number = some ⟨options,.await request next⟩ ∧
      state.serve column number request event = some (ledger,reply) ∧
      after = match reply with
        | none => ledger
        | some answer => ledger.resume number ⟨options,next answer⟩ := by
  unfold State.step at taken
  dsimp only at taken
  split at taken
  next options request next running =>
    obtain ⟨⟨ledger,reply⟩,served,rfl⟩ := Option.map_eq_some_iff.mp taken
    exact ⟨options,request,next,ledger,reply,running,served,rfl⟩
  next => cases taken

theorem step_moves {state after : State} {action : Action} (consistent : Consistent column initial state)
    (taken : state.step column action = some after) : Moves column state after := by
  cases action with
  | start number options =>
    obtain ⟨free,rfl⟩ := step_start taken
    exact .start free
  | perform number event =>
    obtain ⟨options,request,next,ledger,reply,running,served,rfl⟩ := step_perform taken
    have situation := consistent.calls number _ running
    cases situation with
    | saving same =>
      dsimp only at same
      rw [same] at running
      rw [checkAndMark_eq] at same
      cases same
      cases event with
      | inserts processedAt =>
        simp only [State.serve,Option.ite_none_right_eq_some,Option.some.injEq,Prod.mk.injEq] at served
        obtain ⟨⟨absent,free⟩,rfl,rfl⟩ := served
        exact .inserts processedAt running (by simpa using absent) (by simpa using free)
      | commits =>
        unfold State.serve at served
        dsimp only at served
        split at served
        next holder row held =>
          obtain ⟨rfl,whole⟩ := (Option.ite_none_right_eq_some).mp served
          obtain ⟨rfl,rfl⟩ := Prod.mk.inj (Option.some.inj whole)
          exact .commits running held
        next => cases served
      | violates error =>
        simp only [State.serve,Option.ite_none_right_eq_some,Option.some.injEq,Prod.mk.injEq] at served
        obtain ⟨⟨-,committed,carries⟩,rfl,rfl⟩ := served
        obtain ⟨entry,present⟩ := Option.isSome_iff_exists.mp committed
        dsimp only [afterSave]
        rw [if_pos (extractPgCode_of_carries carries)]
        exact .violates running present
      | refuses error =>
        simp only [State.serve,Option.ite_none_left_eq_some] at served
        obtain ⟨other,served⟩ := served
        have code := extractPgCode_of_not_mentions other
        by_cases holds : state.Holds number options.eventId
        · rw [if_pos holds] at served
          obtain ⟨rfl,rfl⟩ := Prod.mk.inj (Option.some.inj served)
          obtain ⟨row,held⟩ := holds
          dsimp only [afterSave]
          rw [if_neg code]
          exact .aborts running held
        · rw [if_neg holds] at served
          obtain ⟨rfl,rfl⟩ := Prod.mk.inj (Option.some.inj served)
          dsimp only [afterSave]
          rw [if_neg code]
          exact .refuses running holds
      | finds => cases served
      | ticks now => cases served
    | reading same present other =>
      dsimp only at same present
      rw [same] at running
      rw [duplicateOf_eq] at same
      cases same
      cases event with
      | finds =>
        obtain ⟨rfl,rfl⟩ := Prod.mk.inj (Option.some.inj served)
        rw [present]
        exact .finds running present
      | refuses error =>
        obtain ⟨rfl,rfl⟩ := Prod.mk.inj (Option.some.inj served)
        exact .loses running
      | inserts _ | commits | violates _ | ticks _ => cases served
    | recorded same => cases same
    | duplicate same => cases same
    | rejected same => cases same

theorem checkAndMark_ne_duplicateOf (options : MarkProcessedOptions) :
    checkAndMark options ≠ duplicateOf options.eventId := by
  rw [checkAndMark_eq,duplicateOf_eq]
  intro same
  cases same

section invariant
variable {state after : State}

theorem begin_consistent : Consistent column initial (State.begin initial) := by
  constructor
  · intro number call present
    cases present
  · intro eventId entry number present own
    obtain ⟨row,-,rfl⟩ := Option.map_eq_some_iff.mp present
    cases own
  · intro eventId entry present _
    obtain ⟨row,found,rfl⟩ := Option.map_eq_some_iff.mp present
    exact found
  · intro eventId number row held
    cases held

theorem Consistent.resume (consistent : Consistent column initial state) {number : Nat} {resumed : Call}
    (unrecorded : ∀ call, state.calls number = some call → ∀ processedAt,
      call.program ≠ .resolve (.recorded processedAt))
    (unheld : ∀ eventId row, state.pending eventId ≠ some (number,row))
    (situation : Situation state.rows number resumed) : Consistent column initial (state.resume number resumed) := by
  constructor
  · intro other present found
    obtain rfl | differs := eq_or_ne other number
    · rw [State.resume_calls_self] at found
      obtain rfl := Option.some.inj found
      exact situation
    · rw [State.resume_calls_of_ne _ differs] at found
      exact consistent.calls other present found
  · intro eventId entry author present own
    obtain ⟨settled,found,event,program,row⟩ := consistent.authors eventId entry author present own
    have differs : author ≠ number := by
      rintro rfl
      exact unrecorded settled found _ program
    exact ⟨settled,(State.resume_calls_of_ne _ differs).trans found,event,program,row⟩
  · exact consistent.olds
  · intro eventId holder row held
    obtain ⟨absent,waiting,found,rest⟩ := consistent.pendings eventId holder row held
    have differs : holder ≠ number := by
      rintro rfl
      exact unheld eventId row held
    exact ⟨absent,waiting,(State.resume_calls_of_ne _ differs).trans found,rest⟩

theorem Consistent.release (consistent : Consistent column initial state) (eventId : String) :
    Consistent column initial (state.release eventId) := by
  refine ⟨consistent.calls,consistent.authors,consistent.olds,?_⟩
  intro other holder row held
  apply consistent.pendings other holder row
  obtain rfl | differs := eq_or_ne other eventId
  · rw [State.release_pending_self] at held
    cases held
  · exact (State.release_pending_of_ne differs).symm.trans held

theorem Consistent.hold (consistent : Consistent column initial state) {number : Nat}
    {options : MarkProcessedOptions} (processedAt : Int)
    (saving : state.calls number = some ⟨options,checkAndMark options⟩)
    (absent : state.rows options.eventId = none) :
    Consistent column initial (state.hold options.eventId number (options.row column processedAt)) := by
  refine ⟨consistent.calls,consistent.authors,consistent.olds,?_⟩
  intro eventId holder row held
  obtain rfl | differs := eq_or_ne eventId options.eventId
  · rw [State.hold_pending_self] at held
    obtain ⟨rfl,rfl⟩ := Prod.mk.inj (Option.some.inj held)
    exact ⟨absent,_,saving,rfl,rfl,rfl⟩
  · exact consistent.pendings eventId holder row ((State.hold_pending_of_ne _ differs).symm.trans held)

/-- A call holds no index entry but that of its event, and holds it while it saves. -/
theorem Consistent.holds_own (consistent : Consistent column initial state) {number : Nat} {call : Call}
    (running : state.calls number = some call) {eventId : String} {row : ProcessedEvent}
    (held : state.pending eventId = some (number,row)) :
    eventId = call.options.eventId ∧ call.program = checkAndMark call.options := by
  obtain ⟨-,holder,found,event,program,-⟩ := consistent.pendings eventId number row held
  obtain rfl := Option.some.inj (running.symm.trans found)
  exact ⟨event.symm,program⟩

theorem Consistent.released (consistent : Consistent column initial state) {number : Nat} {call : Call}
    (running : state.calls number = some call) (eventId : String) (row : ProcessedEvent) :
    (state.release call.options.eventId).pending eventId ≠ some (number,row) := by
  intro held
  obtain rfl | differs := eq_or_ne eventId call.options.eventId
  · rw [State.release_pending_self] at held
    cases held
  · exact differs (consistent.holds_own running ((State.release_pending_of_ne differs).symm.trans held)).1

theorem Consistent.commit (consistent : Consistent column initial state) {number : Nat}
    {options : MarkProcessedOptions} {row : ProcessedEvent}
    (saving : state.calls number = some ⟨options,checkAndMark options⟩)
    (held : state.pending options.eventId = some (number,row)) :
    Consistent column initial (((state.release options.eventId).insert options.eventId ⟨row,some number⟩).resume
      number ⟨options,.resolve (.recorded row.processedAt)⟩) := by
  obtain ⟨absent,call,running,-,-,written⟩ := consistent.pendings _ _ _ held
  obtain rfl := Option.some.inj (saving.symm.trans running)
  let inserted := (state.release options.eventId).insert options.eventId ⟨row,some number⟩
  have own : inserted.rows options.eventId = some ⟨row,some number⟩ := State.insert_rows_self _ _ _
  have rest : ∀ {eventId : String}, eventId ≠ options.eventId → inserted.rows eventId = state.rows eventId :=
    fun differs => State.insert_rows_of_ne _ differs
  have kept : ∀ eventId entry, state.rows eventId = some entry → inserted.rows eventId = some entry := by
    intro eventId entry present
    refine (rest ?_).trans present
    rintro rfl
    rw [absent] at present
    cases present
  constructor
  · intro other call found
    obtain rfl | differs := eq_or_ne other number
    · rw [State.resume_calls_self] at found
      obtain rfl := Option.some.inj found
      exact .recorded rfl own rfl
    · rw [State.resume_calls_of_ne _ differs] at found
      exact (consistent.calls other call found).mono kept
  · intro eventId entry author present wrote
    obtain rfl | differs := eq_or_ne eventId options.eventId
    · obtain rfl := Option.some.inj (own.symm.trans present)
      obtain rfl := Option.some.inj wrote
      exact ⟨_,State.resume_calls_self _ _ _,rfl,rfl,written⟩
    · obtain ⟨call,found,event,program,same⟩ :=
        consistent.authors eventId entry author ((rest differs).symm.trans present) wrote
      refine ⟨call,(State.resume_calls_of_ne _ ?_).trans found,event,program,same⟩
      rintro rfl
      obtain rfl := Option.some.inj (saving.symm.trans found)
      exact differs event.symm
  · intro eventId entry present old
    obtain rfl | differs := eq_or_ne eventId options.eventId
    · obtain rfl := Option.some.inj (own.symm.trans present)
      cases old
    · exact consistent.olds eventId entry ((rest differs).symm.trans present) old
  · intro eventId holder other waits
    obtain ⟨absent,call,found,event,program,same⟩ := (consistent.release options.eventId).pendings _ _ _ waits
    have differs : eventId ≠ options.eventId := by
      rintro rfl
      have free := (State.release_pending_self state options.eventId).symm.trans waits
      cases free
    refine ⟨(rest differs).trans absent,call,(State.resume_calls_of_ne _ ?_).trans found,event,program,same⟩
    rintro rfl
    exact consistent.released saving _ _ waits

theorem Moves.consistent (before : Consistent column initial state) (moves : Moves column state after) :
    Consistent column initial after := by
  have unrecorded : ∀ {number : Nat} {options : MarkProcessedOptions},
      state.calls number = some ⟨options,checkAndMark options⟩ →
      ∀ call, state.calls number = some call → ∀ processedAt, call.program ≠ .resolve (.recorded processedAt) := by
    intro number options saving call found processedAt
    obtain rfl := Option.some.inj (saving.symm.trans found)
    rw [checkAndMark_eq]
    exact nofun
  have searching : ∀ {number : Nat} {options : MarkProcessedOptions},
      state.calls number = some ⟨options,duplicateOf options.eventId⟩ →
      (∀ call, state.calls number = some call → ∀ processedAt, call.program ≠ .resolve (.recorded processedAt)) ∧
        ∀ eventId row, state.pending eventId ≠ some (number,row) := by
    intro number options reading
    refine ⟨?_,fun eventId row held => checkAndMark_ne_duplicateOf _ (before.holds_own reading held).2.symm⟩
    intro call found processedAt
    obtain rfl := Option.some.inj (reading.symm.trans found)
    rw [duplicateOf_eq]
    exact nofun
  cases moves with
  | start free =>
    apply before.resume
    · intro call found
      rw [free] at found
      cases found
    · intro eventId row held
      obtain ⟨-,call,found,-⟩ := before.pendings _ _ _ held
      rw [free] at found
      cases found
    · exact .saving rfl
  | inserts processedAt saving absent _ => exact before.hold processedAt saving absent
  | commits saving held => exact before.commit saving held
  | @violates number options entry saving present =>
    have other : entry.author ≠ some number := by
      intro own
      obtain ⟨call,found,-,program,-⟩ := before.authors _ _ _ present own
      exact unrecorded saving call found _ program
    refine before.resume (unrecorded saving) ?_ (.reading rfl present other)
    intro eventId row held
    obtain ⟨rfl,-⟩ := before.holds_own saving held
    have absent := (before.pendings _ _ _ held).1
    rw [present] at absent
    cases absent
  | aborts saving held =>
    exact (before.release _).resume (unrecorded saving) (before.released saving) (.rejected rfl)
  | @finds number options entry reading present =>
    obtain ⟨unrecorded,unheld⟩ := searching reading
    have other : entry.author ≠ some number := by
      intro own
      obtain ⟨call,found,-,program,-⟩ := before.authors _ _ _ present own
      exact unrecorded call found _ program
    exact before.resume unrecorded unheld (.duplicate rfl present other)
  | refuses saving unheld =>
    refine before.resume (unrecorded saving) ?_ (.rejected rfl)
    intro eventId row held
    obtain ⟨rfl,-⟩ := before.holds_own saving held
    exact unheld ⟨row,held⟩
  | loses reading =>
    obtain ⟨unrecorded,unheld⟩ := searching reading
    exact before.resume unrecorded unheld (.rejected rfl)

/-- In every interleaving a row belongs to the call that recorded it, and an open insert to a call that has
not returned. -/
theorem reach_consistent (reached : State.Reach column initial state) : Consistent column initial state :=
  reached.invariant begin_consistent (fun _ _ _ before _ taken => (step_moves before taken).consistent before)

end invariant
end MessagingPlatform.Idempotency

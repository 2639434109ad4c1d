import MessagingPlatform.Lib.Pool
import MessagingPlatform.Lib.Table

/-! Machines, pools and tables that agree in what is seen of them. What is not seen may differ: two
worlds whose programs do not depend on it perform the same runs. -/

section options
variable {A B C D Seen : Type} {related : A → B → Prop} {first : Option A} {second : Option B}

theorem Option.Rel.lift {later : C → D → Prop} (rel : Option.Rel related first second) {f : A → C} {g : B → D}
    (lifts : ∀ value other, related value other → later (f value) (g other)) :
    Option.Rel later (first.map f) (second.map g) := by
  cases rel with
  | none => exact .none
  | some agreed => exact .some (lifts _ _ agreed)

theorem Option.Rel.itself {always : A → A → Prop} (option : Option A)
    (reflects : ∀ value, option = Option.some value → always value value) : Option.Rel always option option := by
  cases option with
  | none => exact .none
  | some value => exact .some (reflects value rfl)

theorem Option.Rel.shown {left : A → Seen} {right : B → Seen} (rel : Option.Rel related first second)
    (shows : ∀ value other, related value other → left value = right other) :
    first.map left = second.map right := by
  cases rel with
  | none => rfl
  | some agreed => exact congrArg Option.some (shows _ _ agreed)

end options

namespace Machine

variable {State Other Action : Type}

/-- Two machines that agree step by step agree after every run. -/
theorem run_agrees {step : State → Action → Option State} {other : Other → Action → Option Other}
    {agree : State → Other → Prop}
    (steps : ∀ left right action, agree left right → Option.Rel agree (step left action) (other right action))
    {left : State} {right : Other} (first : agree left right) (actions : List Action) :
    Option.Rel agree (run step left actions) (run other right actions) := by
  induction actions generalizing left right with
  | nil => exact .some first
  | cons action rest ih =>
    have taken := steps left right action first
    unfold run
    generalize step left action = stepped, other right action = moved at taken ⊢
    cases taken with
    | none => exact .none
    | some agreed => exact ih agreed

end Machine

namespace Async

variable {Err Req : Type} {Reply : Req → Type} {A : Type}

def Heedless (silent : Req → Prop) : Async Err Req Reply A → Prop
  | .resolve _ | .reject _ => True
  | .await request next =>
      (silent request → ∀ answer other, next answer = next other) ∧ ∀ answer, Heedless silent (next answer)

theorem Asks.heedless {silent : Req → Prop} {program : Async Err Req Reply A}
    (asks : program.Asks (fun request => ¬silent request)) : program.Heedless silent := by
  induction program with
  | resolve value => trivial
  | reject error => trivial
  | await request next ih =>
    exact ⟨fun quiet => absurd quiet asks.1,fun answer => ih answer (asks.2 answer)⟩

end Async

namespace World

variable {State Err Req Seen : Type} {Reply : Req → Type} {Choice External Start : Type}

def Matching (silent : Prop) (view : State → Seen) {Value : Type} (left right : Value × State) : Prop :=
  view left.2 = view right.2 ∧ (¬silent → left.1 = right.1)

/-- Worlds that differ only in what is not seen of their states and in the replies to silent requests. -/
structure Alike (left right : World State Err Req Reply Choice External Start) (silent : Req → Prop)
    (view : State → Seen) : Prop where
  serves : ∀ state other pid request choice, view state = view other →
    Option.Rel (Matching (silent request) view) (left.serve state pid request choice)
      (right.serve other pid request choice)
  fails : left.fails = right.fails
  crashes : ∀ state other pid, view state = view other → view (left.crash state pid) = view (right.crash other pid)
  externals : ∀ state other event, view state = view other →
    Option.Rel (fun after later => view after = view later) (left.external state event) (right.external other event)
  starts : ∀ state other fresh task, view state = view other →
    Option.Rel (fun started launched => Matching False view started launched ∧ started.1.Heedless silent)
      (left.start state fresh task) (right.start other fresh task)

structure Agree (silent : Req → Prop) (view : State → Seen) (pool other : Pool State Err Req Reply) : Prop where
  shared : view pool.shared = view other.shared
  program : pool.program = other.program
  fresh : pool.fresh = other.fresh
  heedless : ∀ pid program, pool.program pid = some program → program.Heedless silent

variable {left right : World State Err Req Reply Choice External Start} {silent : Req → Prop} {view : State → Seen}
  {pool other : Pool State Err Req Reply}

theorem Agree.empty {state later : State} (same : view state = view later) :
    @Agree State Err Req Seen Reply silent view (World.empty state) (World.empty later) :=
  ⟨same,rfl,rfl,fun _ _ absent => by cases absent⟩

theorem Agree.updated (agree : Agree silent view pool other) {state later : State} (same : view state = view later)
    (pid : Nat) {program : Option (Async Err Req Reply Unit)}
    (heedless : ∀ running, program = some running → running.Heedless silent) (fresh : Nat) :
    Agree silent view ⟨state,Function.update pool.program pid program,fresh⟩
      ⟨later,Function.update pool.program pid program,fresh⟩ := by
  refine ⟨same,rfl,rfl,?_⟩
  intro number running present
  dsimp only at present
  by_cases self : number = pid
  · rw [self,Function.update_self] at present
    exact heedless running present
  · rw [Function.update_of_ne self] at present
    exact agree.heedless number running present

theorem Alike.answers (alike : Alike left right silent view) {state later : State} (same : view state = view later)
    (pid : Nat) (request : Req) (answer : Answer Choice Err) :
    Option.Rel (Matching (silent request) view) (left.answer state pid request answer)
      (right.answer later pid request answer) := by
  cases answer with
  | served choice => exact alike.serves state later pid request choice same
  | refused error =>
    simp only [World.answer,alike.fails]
    by_cases failing : right.fails request error
    · rw [if_pos failing,if_pos failing]
      exact .some ⟨same,fun _ => rfl⟩
    · rw [if_neg failing,if_neg failing]
      exact .none
  | lost choice error =>
    simp only [World.answer,alike.fails]
    by_cases failing : right.fails request error
    · rw [if_pos failing,if_pos failing]
      exact (alike.serves state later pid request choice same).lift (fun _ _ matching => ⟨matching.1,fun _ => rfl⟩)
    · rw [if_neg failing,if_neg failing]
      exact .none

theorem Alike.step (alike : Alike left right silent view) (agree : Agree silent view pool other)
    (action : Action Choice Err External Start) :
    Option.Rel (Agree silent view) (left.step pool action) (right.step other action) := by
  cases action with
  | resume pid answer =>
    simp only [World.step,← agree.program]
    cases running : pool.program pid with
    | none => exact .none
    | some program =>
      cases program with
      | resolve value => exact .none
      | reject error => exact .none
      | await request next =>
        obtain ⟨hushes,continues⟩ := agree.heedless pid _ running
        apply (alike.answers agree.shared pid request answer).lift
        intro answered replied matching
        have goesOn : next answered.1 = next replied.1 := by
          by_cases hushed : silent request
          · exact hushes hushed _ _
          · rw [matching.2 hushed]
        rw [goesOn,← agree.fresh]
        refine agree.updated matching.1 pid ?_ pool.fresh
        intro resumed same
        exact Option.some.inj same ▸ continues replied.1
  | crash pid =>
    simp only [World.step]
    rw [← agree.program,← agree.fresh]
    apply (@Option.Rel.itself _ (fun _ _ => True) (pool.program pid) (fun _ _ => trivial)).lift
    intro program again _
    refine agree.updated (alike.crashes _ _ pid agree.shared) pid ?_ pool.fresh
    intro running absent
    cases absent
  | external event =>
    apply (alike.externals _ _ event agree.shared).lift
    intro after later same
    exact ⟨same,agree.program,agree.fresh,agree.heedless⟩
  | start task =>
    simp only [World.step]
    rw [← agree.program,← agree.fresh]
    apply (alike.starts _ _ pool.fresh task agree.shared).lift
    intro started launched matching
    obtain ⟨⟨same,programs⟩,heedless⟩ := matching
    rw [← programs not_false]
    refine agree.updated same pool.fresh ?_ (pool.fresh + 1)
    intro begun here
    exact Option.some.inj here ▸ heedless

/-- Pools that look the same at first look the same after every run. -/
theorem Alike.run (alike : Alike left right silent view) (agree : Agree silent view pool other)
    (actions : List (Action Choice Err External Start)) :
    Option.Rel (Agree silent view) (Machine.run left.step pool actions) (Machine.run right.step other actions) :=
  Machine.run_agrees (fun _ _ action agree => alike.step agree action) agree actions

end World

section tables
variable {Row Value : Type} {key : Row → Nat} {erase : Row → Row} {update : Update Row key}
  {table other : Table Row key}

structure Update.Blind (update : Update Row key) (erase : Row → Row) : Prop where
  cond : ∀ row, update.cond (erase row) = update.cond row
  set : ∀ row, erase (update.set (erase row)) = erase (update.set row)

def Table.Same (erase : Row → Row) (table other : Table Row key) : Prop :=
  table.rows.map erase = other.rows.map erase

theorem Update.Blind.write (blind : update.Blind erase) (idle : ∀ row, erase (erase row) = erase row) (row : Row) :
    erase (update.write (erase row)) = erase (update.write row) := by
  unfold Update.write
  rw [blind.cond]
  split
  · exact blind.set row
  · exact idle row

theorem Table.Same.apply (same : Table.Same erase table other) (blind : update.Blind erase)
    (idle : ∀ row, erase (erase row) = erase row) : Table.Same erase (table.apply update) (other.apply update) := by
  have through : ∀ rows : List Row, (rows.map update.write).map erase =
      ((rows.map erase).map update.write).map erase := by
    intro rows
    simp only [List.map_map]
    exact List.map_congr_left (fun row _ => (blind.write idle row).symm)
  change (table.rows.map update.write).map erase = (other.rows.map update.write).map erase
  rw [through table.rows,same,← through other.rows]

theorem Table.Same.returning (same : Table.Same erase table other) (blind : update.Blind erase)
    {value : Row → Value} (unseen : ∀ row, value (update.set (erase row)) = value (update.set row)) :
    (table.returning update).map value = (other.returning update).map value := by
  have through : ∀ rows : List Row, ((rows.filter update.cond).map update.set).map value =
      (((rows.map erase).filter update.cond).map update.set).map value := by
    intro rows
    rw [List.filter_map,show update.cond ∘ erase = update.cond from funext blind.cond]
    simp only [List.map_map]
    exact List.map_congr_left (fun row _ => (unseen row).symm)
  change ((table.rows.filter update.cond).map update.set).map value =
    ((other.rows.filter update.cond).map update.set).map value
  rw [through table.rows,same,← through other.rows]

theorem Table.Same.find? (same : Table.Same erase table other) (keeps : ∀ row, key (erase row) = key row) (id : Nat) :
    (table.find? id).map erase = (other.find? id).map erase := by
  have through : ∀ rows : List Row, (rows.find? (fun row => key row == id)).map erase =
      (rows.map erase).find? (fun row => key row == id) := by
    intro rows
    rw [List.find?_map]
    simp only [Function.comp_def,keeps]
  change (table.rows.find? _).map erase = (other.rows.find? _).map erase
  rw [through,through,same]

theorem Table.Same.keys (same : Table.Same erase table other) (keeps : ∀ row, key (erase row) = key row) :
    table.keys = other.keys := by
  have through : ∀ rows : List Row, rows.map key = (rows.map erase).map key := by
    intro rows
    rw [List.map_map]
    exact List.map_congr_left (fun row _ => (keeps row).symm)
  change table.rows.map key = other.rows.map key
  rw [through table.rows,same,← through other.rows]

theorem Table.Same.insert (same : Table.Same erase table other) {row : Row} (fresh : key row ∉ table.keys)
    (new : key row ∉ other.keys) : Table.Same erase (table.insert row fresh) (other.insert row new) := by
  unfold Table.Same Table.insert
  rw [List.map_append,List.map_append]
  exact congrArg (· ++ _) same

end tables

import Mathlib.Data.List.Basic
import Mathlib.Data.List.Induction

/-! Runs of a partial step function. Every choice that an environment makes is part of the
action, so a run is determined by its actions and can be evaluated on concrete ones. -/
namespace Machine

variable {State Action : Type} {step : State → Action → Option State}
  {permitted stricter : State → Action → Prop}

/-- Performs the actions in order and stops at the first one that is disabled. -/
def run (step : State → Action → Option State) : State → List Action → Option State
  | state, [] => some state
  | state, action :: rest => (step state action).bind (fun next => run step next rest)

def Permitted (step : State → Action → Option State) (permitted : State → Action → Prop) :
    State → List Action → Prop
  | _, [] => True
  | state, action :: rest => permitted state action ∧
      ∀ next, step state action = some next → Permitted step permitted next rest

inductive Reaches (step : State → Action → Option State) (permitted : State → Action → Prop)
    (initial : State) : State → Prop
  | start : Reaches step permitted initial initial
  | next {state action after} (before : Reaches step permitted initial state)
      (allowed : permitted state action) (taken : step state action = some after) :
      Reaches step permitted initial after

theorem Reaches.trans {first second third : State}
    (left : Reaches step permitted first second) (right : Reaches step permitted second third) :
    Reaches step permitted first third := by
  induction right with
  | start => exact left
  | next _ allowed taken ih => exact .next ih allowed taken

theorem Reaches.mono (weaker : ∀ state action, stricter state action → permitted state action)
    {initial state : State} (reached : Reaches step stricter initial state) :
    Reaches step permitted initial state := by
  induction reached with
  | start => exact .start
  | next _ allowed taken ih => exact .next ih (weaker _ _ allowed) taken

/-- What holds at first and is kept by every permitted step holds in every state that is reached. -/
theorem Reaches.invariant {holds : State → Prop} {initial state : State}
    (reached : Reaches step permitted initial state) (first : holds initial)
    (kept : ∀ state action after, holds state → permitted state action →
      step state action = some after → holds after) : holds state := by
  induction reached with
  | start => exact first
  | next _ allowed taken ih => exact kept _ _ _ ih allowed taken

/-- A run of permitted actions reaches its last state. -/
theorem run_reaches {initial final : State} {actions : List Action}
    (ran : run step initial actions = some final)
    (allowed : Permitted step permitted initial actions) :
    Reaches step permitted initial final := by
  induction actions generalizing initial with
  | nil => obtain rfl := Option.some.inj ran; exact .start
  | cons action rest ih =>
    obtain ⟨next,taken,ran⟩ := Option.bind_eq_some_iff.mp ran
    have tail := ih ran (allowed.2 next taken)
    exact (Reaches.next .start allowed.1 taken).trans tail

theorem run_append (first second : List Action) (state : State) :
    run step state (first ++ second) = (run step state first).bind (fun next => run step next second) := by
  induction first generalizing state with
  | nil => rfl
  | cons action rest ih =>
    change (step state action).bind _ = ((step state action).bind _).bind _
    rw [Option.bind_assoc]
    exact congrArg ((step state action).bind) (funext fun next => ih next)

theorem permitted_every (every : ∀ state action, permitted state action) (state : State) (actions : List Action) :
    Permitted step permitted state actions := by
  induction actions generalizing state with
  | nil => trivial
  | cons action rest ih => exact ⟨every state action,fun next _ => ih next⟩

def tally (step : State → Action → Option State) (marked : State → Action → Bool) : State → List Action → Nat
  | _, [] => 0
  | state, action :: rest => (if marked state action then 1 else 0) +
      match step state action with
      | some next => tally step marked next rest
      | none => 0

variable {marked : State → Action → Bool}

theorem tally_cons {state next : State} {action : Action} (taken : step state action = some next)
    (rest : List Action) : tally step marked state (action :: rest) =
      (if marked state action then 1 else 0) + tally step marked next rest := by
  rw [tally,taken]

theorem tally_eq_zero_iff {initial final : State} {actions : List Action}
    (ran : run step initial actions = some final) : tally step marked initial actions = 0 ↔
      Permitted step (fun state action => marked state action = false) initial actions := by
  induction actions generalizing initial with
  | nil => exact iff_of_true rfl trivial
  | cons action rest ih =>
    obtain ⟨next,taken,ran⟩ := Option.bind_eq_some_iff.mp ran
    rw [tally_cons taken,Nat.add_eq_zero_iff,ih ran]
    apply and_congr
    · cases found : marked initial action with
      | false => exact iff_of_true rfl found
      | true => exact iff_of_false (by decide) (fun unmarked => absurd (found.symm.trans unmarked) (by decide))
    · constructor
      · intro permitted other again
        obtain rfl := Option.some.inj (taken.symm.trans again)
        exact permitted
      · intro permitted
        exact permitted next taken

/-- A measure that grows by one with the marked actions has grown by their number. -/
theorem run_measure {holds : State → Prop} (measure : State → Nat) {initial final : State}
    {actions : List Action} (ran : run step initial actions = some final) (first : holds initial)
    (kept : ∀ state action after, holds state → step state action = some after →
      holds after ∧ measure after = measure state + if marked state action then 1 else 0) :
    holds final ∧ measure final = measure initial + tally step marked initial actions := by
  induction actions generalizing initial with
  | nil =>
    obtain rfl := Option.some.inj ran
    exact ⟨first,rfl⟩
  | cons action rest ih =>
    obtain ⟨next,taken,ran⟩ := Option.bind_eq_some_iff.mp ran
    obtain ⟨held,grown⟩ := kept _ _ _ first taken
    obtain ⟨ended,total⟩ := ih ran held
    refine ⟨ended,?_⟩
    rw [total,grown,tally_cons taken,Nat.add_assoc]

section histories
variable {initial : State} {holds claimed : List Action → State → Prop}

theorem run_concat (actions : List Action) (action : Action) : run step initial (actions ++ [action]) =
    (run step initial actions).bind (fun state => step state action) := by
  induction actions generalizing initial with
  | nil =>
    change (step initial action).bind some = step initial action
    exact Option.bind_fun_some _
  | cons first rest ih =>
    change (step initial first).bind _ = ((step initial first).bind _).bind _
    rw [Option.bind_assoc]
    exact congrArg ((step initial first).bind) (funext fun _ => ih)

theorem permitted_concat {actions : List Action} {state : State} (ran : run step initial actions = some state)
    (action : Action) : Permitted step permitted initial (actions ++ [action]) ↔
      Permitted step permitted initial actions ∧ permitted state action := by
  induction actions generalizing initial with
  | nil =>
    obtain rfl := Option.some.inj ran
    exact ⟨fun allowed => ⟨trivial,allowed.1⟩,fun allowed => ⟨allowed.2,fun _ _ => trivial⟩⟩
  | cons first rest ih =>
    obtain ⟨next,taken,ran⟩ := Option.bind_eq_some_iff.mp ran
    have single : ∀ claim : State → Prop,
        (∀ other, step initial first = some other → claim other) ↔ claim next := by
      intro claim
      rw [taken]
      exact ⟨fun every => every next rfl,fun held _ same => Option.some.inj same ▸ held⟩
    rw [List.cons_append,Permitted,Permitted,single,single,ih ran,and_assoc]

def Throughout (step : State → Action → Option State) (claimed : List Action → State → Prop) (initial : State)
    (actions : List Action) : Prop :=
  ∀ past, past <+: actions → ∀ state, run step initial past = some state → claimed past state

theorem throughout_concat {actions : List Action} {action : Action} {final : State}
    (ran : run step initial (actions ++ [action]) = some final) :
    Throughout step claimed initial (actions ++ [action]) ↔
      Throughout step claimed initial actions ∧ claimed (actions ++ [action]) final := by
  constructor
  · intro every
    exact ⟨fun past before => every past (before.trans (List.prefix_append _ _)),
      every _ (List.prefix_refl _) final ran⟩
  · rintro ⟨every,last⟩ past before state reached
    rcases List.prefix_concat_iff.mp before with rfl | before
    · obtain rfl := Option.some.inj (ran.symm.trans reached)
      exact last
    · exact every past before state reached

/-- What an invariant says of all of a run holds exactly when the actions are permitted, if the permitted
ones keep the invariant and the others break what it says. -/
theorem throughout_iff (covers : ∀ past state, holds past state → claimed past state) (first : holds [] initial)
    (kept : ∀ past state action after, holds past state → step state action = some after →
      permitted state action → holds (past ++ [action]) after)
    (broken : ∀ past state action after, holds past state → step state action = some after →
      ¬permitted state action → ¬claimed (past ++ [action]) after)
    {actions : List Action} {final : State} (ran : run step initial actions = some final) :
    (Throughout step claimed initial actions ↔ Permitted step permitted initial actions) ∧
      (Permitted step permitted initial actions → holds actions final) := by
  induction actions using List.reverseRecOn generalizing final with
  | nil =>
    obtain rfl := Option.some.inj ran
    refine ⟨iff_of_true ?_ trivial,fun _ => first⟩
    intro past before state reached
    obtain rfl := List.prefix_nil.mp before
    obtain rfl := Option.some.inj reached
    exact covers _ _ first
  | append_singleton actions action ih =>
    have split := ran
    rw [run_concat] at split
    obtain ⟨state,before,taken⟩ := Option.bind_eq_some_iff.mp split
    obtain ⟨same,holding⟩ := ih before
    rw [throughout_concat ran,permitted_concat before,same]
    refine ⟨and_congr_right (fun allowed => ?_),fun allowed => kept _ _ _ _ (holding allowed.1) taken allowed.2⟩
    by_cases now : permitted state action
    · exact iff_of_true (covers _ _ (kept _ _ _ _ (holding allowed) taken now)) now
    · exact iff_of_false (broken _ _ _ _ (holding allowed) taken now) now

end histories

instance decidablePermitted [∀ state action, Decidable (permitted state action)] :
    ∀ state actions, Decidable (Permitted step permitted state actions)
  | _, [] => .isTrue trivial
  | state, action :: rest =>
      match taken : step state action with
      | none => decidable_of_iff (permitted state action) (by simp [Permitted,taken])
      | some next =>
          have := decidablePermitted next rest
          decidable_of_iff (permitted state action ∧ Permitted step permitted next rest)
            (by simp [Permitted,taken])

end Machine

import MessagingPlatform.Lib.Pool

/-! Worlds with a ghost: a value that follows what happens and that nothing reads. Every run with
the ghost is a run of the world, and every run of the world has its ghost. -/

inductive Effect (Req Choice External Start : Type) where
  | performs (pid : Nat) (request : Req) (choice : Choice)
  | crashes (pid : Nat)
  | external (event : External)
  | starts (pid : Nat) (task : Start)

def Pool.erase {State Ghost Err Req : Type} {Reply : Req → Type} (pool : Pool (State × Ghost) Err Req Reply) :
    Pool State Err Req Reply := ⟨pool.shared.1,pool.program,pool.fresh⟩

namespace World

variable {State Ghost Err Req View : Type} {Reply : Req → Type} {Choice External Start : Type}
  (W : World State Err Req Reply Choice External Start)
  (note : Ghost → State → Effect Req Choice External Start → Ghost)

def withGhost : World (State × Ghost) Err Req Reply Choice External Start where
  serve state pid request choice := (W.serve state.1 pid request choice).map (fun served =>
    (served.1,served.2,note state.2 state.1 (.performs pid request choice)))
  fails := W.fails
  crash state pid := (W.crash state.1 pid,note state.2 state.1 (.crashes pid))
  external state event := (W.external state.1 event).map (fun after =>
    (after,note state.2 state.1 (.external event)))
  start state pid task := (W.start state.1 pid task).map (fun started =>
    (started.1,started.2,note state.2 state.1 (.starts pid task)))

def Unghosted (guard : State → Happening Req Choice Err External Start → Prop) (state : State × Ghost) :
    Happening Req Choice Err External Start → Prop := guard state.1

instance {guard : State → Happening Req Choice Err External Start → Prop}
    [∀ state event, Decidable (guard state event)] (state : State × Ghost)
    (event : Happening Req Choice Err External Start) : Decidable (Unghosted guard state event) :=
  inferInstanceAs (Decidable (guard state.1 event))

variable {W note}

theorem withGhost_serve {state after : State × Ghost} {pid : Nat} {request : Req} {choice : Choice}
    {reply : Except Err (Reply request)}
    (served : (W.withGhost note).serve state pid request choice = some (reply,after)) :
    W.serve state.1 pid request choice = some (reply,after.1) ∧
      after.2 = note state.2 state.1 (.performs pid request choice) := by
  obtain ⟨⟨other,next⟩,performed,same⟩ := Option.map_eq_some_iff.mp served
  obtain ⟨rfl,rfl⟩ := Prod.mk.inj same
  exact ⟨performed,rfl⟩

theorem withGhost_answer {state : State × Ghost} {pid : Nat} {request : Req} {answer : Answer Choice Err} :
    ((W.withGhost note).answer state pid request answer).map (fun answered => (answered.1,answered.2.1)) =
      W.answer state.1 pid request answer := by
  cases answer with
  | served choice =>
    change Option.map _ (Option.map _ _) = _
    rw [Option.map_map]
    exact Option.map_id'
  | refused error => by_cases fails : W.fails request error = true <;> simp [World.answer,withGhost,fails]
  | lost choice error =>
    by_cases fails : W.fails request error = true
    · simp [World.answer,withGhost,fails,Function.comp_def]
    · simp [World.answer,withGhost,fails]

theorem withGhost_happening {pool : Pool (State × Ghost) Err Req Reply} {action : Action Choice Err External Start} :
    (W.withGhost note).happening pool action = W.happening pool.erase action := by
  cases action <;> rfl

theorem withGhost_step {pool : Pool (State × Ghost) Err Req Reply} {action : Action Choice Err External Start} :
    ((W.withGhost note).step pool action).map Pool.erase = W.step pool.erase action := by
  cases action with
  | resume pid answer =>
    have same : pool.erase.program = pool.program := rfl
    cases running : pool.program pid with
    | none => simp [step,same,running]
    | some program =>
      cases program with
      | resolve value => simp [step,same,running]
      | reject error => simp [step,same,running]
      | await request next =>
        have answered := @withGhost_answer _ _ _ _ _ _ _ _ W note pool.shared pid request answer
        have here : pool.erase.shared = pool.shared.1 := rfl
        simp only [step,same,running,here,← answered,Option.map_map]
        rfl
  | crash pid =>
    simp only [step,Option.map_map]
    rfl
  | external event =>
    simp only [step,withGhost,Option.map_map]
    rfl
  | start task =>
    simp only [step,withGhost,Option.map_map]
    rfl

theorem Reach.erase {guard : State → Happening Req Choice Err External Start → Prop} {initial : State}
    {ghost : Ghost} {pool : Pool (State × Ghost) Err Req Reply}
    (reached : (W.withGhost note).Reach (Unghosted guard) (initial,ghost) pool) :
    W.Reach guard initial pool.erase := by
  induction reached with
  | start => exact .start
  | next _ allowed taken ih =>
    have erased := congrArg (Option.map Pool.erase) taken
    rw [withGhost_step] at erased
    refine .next ih ?_ erased
    intro event happens
    exact allowed event (withGhost_happening.trans happens)

theorem Reach.haunt {guard : State → Happening Req Choice Err External Start → Prop} {initial : State}
    (ghost : Ghost) {pool : Pool State Err Req Reply} (reached : W.Reach guard initial pool) :
    ∃ haunted, Pool.erase haunted = pool ∧ (W.withGhost note).Reach (Unghosted guard) (initial,ghost) haunted := by
  induction reached with
  | start => exact ⟨_,rfl,.start⟩
  | @next _ action _ _ allowed taken ih =>
    obtain ⟨haunted,rfl,reached⟩ := ih
    have lifted := @withGhost_step _ _ _ _ _ _ _ _ W note haunted action
    rw [taken] at lifted
    obtain ⟨after,stepped,same⟩ := Option.map_eq_some_iff.mp lifted
    refine ⟨after,same,.next reached ?_ stepped⟩
    intro event happens
    exact allowed event (withGhost_happening.symm.trans happens)

/-- The ghost decides nothing. -/
theorem reach_ghost_iff {guard : State → Happening Req Choice Err External Start → Prop} {initial : State}
    (ghost : Ghost) {pool : Pool State Err Req Reply} : W.Reach guard initial pool ↔
      ∃ haunted, Pool.erase haunted = pool ∧
        (W.withGhost note).Reach (Unghosted guard) (initial,ghost) haunted := by
  constructor
  · intro reached
    exact reached.haunt ghost
  · intro found
    obtain ⟨haunted,rfl,reached⟩ := found
    exact reached.erase

end World

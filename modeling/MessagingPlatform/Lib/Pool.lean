import Mathlib.Logic.Function.Basic
import MessagingPlatform.Lib.Machine
import MessagingPlatform.Lib.Protocol

/-! Pools of promise programs over a shared state. One step answers one request of one
program, so every interleaving of the programs is a run. A request can be served, refused
without effect, or served with its answer lost on the way back; a program can crash between
any two requests. `Sound` is the rely-guarantee rule for such pools. -/

inductive Answer (Choice Err : Type) where
  | served (choice : Choice)
  | refused (error : Err)
  | lost (choice : Choice) (error : Err)

def Answer.choice? {Choice Err : Type} : Answer Choice Err → Option Choice
  | .served choice | .lost choice _ => some choice
  | .refused _ => none

inductive Happening (Req Choice Err External Start : Type) where
  | performs (pid : Nat) (request : Req) (answer : Answer Choice Err)
  | crashes (pid : Nat)
  | external (event : External)
  | starts (task : Start)

structure World (State Err Req : Type) (Reply : Req → Type) (Choice External Start : Type) where
  serve : State → Nat → (request : Req) → Choice → Option (Except Err (Reply request) × State)
  /-- The errors that the environment may answer a request with on its own account. -/
  fails : Req → Err → Bool
  crash : State → Nat → State
  external : State → External → Option State
  start : State → Nat → Start → Option (Async Err Req Reply Unit × State)

structure Pool (State Err Req : Type) (Reply : Req → Type) where
  shared : State
  program : Nat → Option (Async Err Req Reply Unit)
  /-- Programs are numbered in the order they start. -/
  fresh : Nat

namespace World

variable {State Err Req View : Type} {Reply : Req → Type} {Choice External Start : Type}

inductive Action (Choice Err External Start : Type) where
  | resume (pid : Nat) (answer : Answer Choice Err)
  | crash (pid : Nat)
  | external (event : External)
  | start (task : Start)

variable (W : World State Err Req Reply Choice External Start)

def answer (state : State) (pid : Nat) (request : Req) :
    Answer Choice Err → Option (Except Err (Reply request) × State)
  | .served choice => W.serve state pid request choice
  | .refused error => if W.fails request error then some (.error error,state) else none
  | .lost choice error =>
      if W.fails request error then
        (W.serve state pid request choice).map (fun served => (.error error,served.2))
      else none

def step (pool : Pool State Err Req Reply) :
    Action Choice Err External Start → Option (Pool State Err Req Reply)
  | .resume pid answer =>
      match pool.program pid with
      | some (.await request next) =>
          (W.answer pool.shared pid request answer).map (fun answered =>
            ⟨answered.2,Function.update pool.program pid (some (next answered.1)),pool.fresh⟩)
      | _ => none
  | .crash pid =>
      (pool.program pid).map (fun _ =>
        ⟨W.crash pool.shared pid,Function.update pool.program pid none,pool.fresh⟩)
  | .external event =>
      (W.external pool.shared event).map (fun after => ⟨after,pool.program,pool.fresh⟩)
  | .start task =>
      (W.start pool.shared pool.fresh task).map (fun started =>
        ⟨started.2,Function.update pool.program pool.fresh (some started.1),pool.fresh + 1⟩)

def happening (_ : World State Err Req Reply Choice External Start)
    (pool : Pool State Err Req Reply) :
    Action Choice Err External Start → Option (Happening Req Choice Err External Start)
  | .resume pid answer =>
      match pool.program pid with
      | some (.await request _) => some (.performs pid request answer)
      | _ => none
  | .crash pid => some (.crashes pid)
  | .external event => some (.external event)
  | .start task => some (.starts task)

def Permits (guard : State → Happening Req Choice Err External Start → Prop)
    (pool : Pool State Err Req Reply) (action : Action Choice Err External Start) : Prop :=
  ∀ event, W.happening pool action = some event → guard pool.shared event

instance {guard : State → Happening Req Choice Err External Start → Prop}
    [∀ state event, Decidable (guard state event)] (pool : Pool State Err Req Reply)
    (action : Action Choice Err External Start) : Decidable (W.Permits guard pool action) :=
  match happens : W.happening pool action with
  | none => .isTrue (fun _ impossible => by simp [happens] at impossible)
  | some event => decidable_of_iff (guard pool.shared event) (by simp [Permits,happens])

def empty (state : State) : Pool State Err Req Reply := ⟨state,fun _ => none,0⟩

def Reach (guard : State → Happening Req Choice Err External Start → Prop)
    (initial : State) (pool : Pool State Err Req Reply) : Prop :=
  Machine.Reaches W.step (W.Permits guard) (empty initial) pool

/-- The rely-guarantee rule. `inv` holds of the shared state, `knows` ties the view of each
program to it. A program's own step may use what its view allows; the steps of the others
must leave the view true. -/
structure Sound (P : Protocol View Err Req Reply) (ends : View → Except Err Unit → Prop)
    (guard : State → Happening Req Choice Err External Start → Prop)
    (inv : Nat → State → Prop) (knows : Nat → State → View → Prop) : Prop where
  starts : ∀ fresh state task program after, inv fresh state → guard state (.starts task) →
    W.start state fresh task = some (program,after) →
    inv (fresh + 1) after ∧
    (∃ view, knows fresh after view ∧ P.Follows program view ends) ∧
    ∀ pid, pid < fresh → ∀ view, knows pid state view → knows pid after view
  serves : ∀ fresh state pid view request answer choice reply after, inv fresh state → pid < fresh →
    knows pid state view → P.allows view request → guard state (.performs pid request answer) →
    answer.choice? = some choice → W.serve state pid request choice = some (reply,after) →
    inv fresh after ∧
    (∀ outcome, (outcome = reply ∨ ∃ error, W.fails request error ∧ outcome = .error error) →
      ∃ next, P.moves view request outcome next ∧ knows pid after next) ∧
    ∀ other, other ≠ pid → ∀ view, knows other state view → knows other after view
  refuses : ∀ fresh state pid view request error, inv fresh state → knows pid state view →
    P.allows view request → W.fails request error →
    ∃ next, P.moves view request (.error error) next ∧ knows pid state next
  crashes : ∀ fresh state pid, inv fresh state → guard state (.crashes pid) →
    inv fresh (W.crash state pid) ∧
    ∀ other, other ≠ pid → ∀ view, knows other state view → knows other (W.crash state pid) view
  externals : ∀ fresh state event after, inv fresh state → guard state (.external event) →
    W.external state event = some after →
    inv fresh after ∧ ∀ pid view, knows pid state view → knows pid after view

variable {W} {stricter : State → Happening Req Choice Err External Start → Prop}

theorem Reach.mono {guard : State → Happening Req Choice Err External Start → Prop}
    (weaker : ∀ state event, stricter state event → guard state event) {initial : State}
    {pool : Pool State Err Req Reply} (reached : W.Reach stricter initial pool) :
    W.Reach guard initial pool :=
  Machine.Reaches.mono (fun _ _ permitted event happens => weaker _ _ (permitted event happens)) reached

variable {P : Protocol View Err Req Reply} {ends : View → Except Err Unit → Prop}
  {guard : State → Happening Req Choice Err External Start → Prop}
  {inv : Nat → State → Prop} {knows : Nat → State → View → Prop}

def Coherent (P : Protocol View Err Req Reply) (ends : View → Except Err Unit → Prop)
    (inv : Nat → State → Prop) (knows : Nat → State → View → Prop)
    (pool : Pool State Err Req Reply) : Prop :=
  inv pool.fresh pool.shared ∧ ∀ pid program, pool.program pid = some program →
    pid < pool.fresh ∧ ∃ view, knows pid pool.shared view ∧ P.Follows program view ends

theorem step_resume {pool after : Pool State Err Req Reply} {pid : Nat}
    {answer : Answer Choice Err} (taken : W.step pool (.resume pid answer) = some after) :
    ∃ request next reply, pool.program pid = some (.await request next) ∧
      W.happening pool (.resume pid answer) = some (.performs pid request answer) ∧
      W.answer pool.shared pid request answer = some (reply,after.shared) ∧
      after.program = Function.update pool.program pid (some (next reply)) ∧
      after.fresh = pool.fresh := by
  unfold step at taken
  cases running : pool.program pid with
  | none => simp [running] at taken
  | some program =>
    cases program with
    | resolve value => simp [running] at taken
    | reject error => simp [running] at taken
    | await request next =>
      simp only [running,Option.map_eq_some_iff] at taken
      obtain ⟨⟨reply,state⟩,answered,rfl⟩ := taken
      exact ⟨request,next,reply,rfl,by simp [happening,running],answered,rfl,rfl⟩

/-- An answer serves the request, with its reply kept or lost, or refuses it. -/
theorem answer_cases {state after : State} {pid : Nat} {request : Req} {answer : Answer Choice Err}
    {reply : Except Err (Reply request)} (answered : W.answer state pid request answer = some (reply,after)) :
    (∃ choice served, answer.choice? = some choice ∧
      W.serve state pid request choice = some (served,after) ∧
      (reply = served ∨ ∃ error, W.fails request error ∧ reply = .error error)) ∨
    (after = state ∧ answer.choice? = none ∧ ∃ error, W.fails request error ∧ reply = .error error) := by
  cases answer with
  | served choice => exact .inl ⟨choice,reply,rfl,answered,.inl rfl⟩
  | refused error =>
    simp only [World.answer,Option.ite_none_right_eq_some,Option.some.injEq,Prod.mk.injEq] at answered
    obtain ⟨fails,rfl,rfl⟩ := answered
    exact .inr ⟨rfl,rfl,error,fails,rfl⟩
  | lost choice error =>
    simp only [World.answer,Option.ite_none_right_eq_some,Option.map_eq_some_iff,Prod.mk.injEq] at answered
    obtain ⟨fails,⟨served,state⟩,performed,rfl,rfl⟩ := answered
    exact .inl ⟨choice,served,rfl,performed,.inr ⟨error,fails,rfl⟩⟩

/-- A property of the shared state that everything that can happen to it keeps. -/
theorem step_keeps {holds : State → Prop}
    (serves : ∀ state pid request choice reply after, holds state →
      W.serve state pid request choice = some (reply,after) → holds after)
    (crashes : ∀ state pid, holds state → holds (W.crash state pid))
    (externals : ∀ state event after, holds state → W.external state event = some after → holds after)
    (starts : ∀ state fresh task program after, holds state →
      W.start state fresh task = some (program,after) → holds after)
    {pool after : Pool State Err Req Reply} {action : Action Choice Err External Start}
    (before : holds pool.shared) (taken : W.step pool action = some after) : holds after.shared := by
  cases action with
  | resume pid answer =>
    obtain ⟨request,_,reply,_,_,answered,_⟩ := step_resume taken
    rcases answer_cases answered with ⟨choice,served,_,performed,_⟩ | ⟨same,_⟩
    · exact serves _ _ _ _ _ _ before performed
    · exact same ▸ before
  | crash pid =>
    obtain ⟨_,_,rfl⟩ := Option.map_eq_some_iff.mp taken
    exact crashes _ _ before
  | external event =>
    obtain ⟨state,happened,rfl⟩ := Option.map_eq_some_iff.mp taken
    exact externals _ _ _ before happened
  | start task =>
    obtain ⟨⟨program,state⟩,launched,rfl⟩ := Option.map_eq_some_iff.mp taken
    exact starts _ _ _ _ _ before launched

theorem Sound.performs (sound : W.Sound P ends guard inv knows) {fresh pid : Nat}
    {state after : State} {view : View} {request : Req} {answer : Answer Choice Err}
    {reply : Except Err (Reply request)} (holds : inv fresh state) (below : pid < fresh)
    (known : knows pid state view) (allowed : P.allows view request)
    (permitted : guard state (.performs pid request answer))
    (answered : W.answer state pid request answer = some (reply,after)) :
    inv fresh after ∧ (∃ next, P.moves view request reply next ∧ knows pid after next) ∧
      ∀ other, other ≠ pid → ∀ view, knows other state view → knows other after view := by
  rcases answer_cases answered with ⟨choice,served,chosen,performed,kept⟩ | ⟨rfl,_,error,fails,rfl⟩
  · obtain ⟨next,moved,others⟩ := sound.serves _ _ _ _ _ _ _ _ _ holds below known allowed
      permitted chosen performed
    exact ⟨next,moved reply kept,others⟩
  · exact ⟨holds,sound.refuses _ _ _ _ _ _ holds known allowed fails,fun _ _ _ known => known⟩

theorem step_coherent (sound : W.Sound P ends guard inv knows) {pool after : Pool State Err Req Reply}
    {action : Action Choice Err External Start} (coherent : Coherent P ends inv knows pool)
    (allowed : W.Permits guard pool action) (taken : W.step pool action = some after) :
    Coherent P ends inv knows after := by
  obtain ⟨holds,views⟩ := coherent
  cases action with
  | resume pid answer =>
    obtain ⟨request,next,reply,running,event,answered,programs,same⟩ := step_resume taken
    obtain ⟨below,view,known,follows⟩ := views pid _ running
    obtain ⟨kept,⟨moved,moves,knownAfter⟩,others⟩ := sound.performs holds below known
      follows.1 (allowed _ event) answered
    refine ⟨same ▸ kept,?_⟩
    intro other program present
    rw [programs] at present
    by_cases self : other = pid
    · subst self
      rw [Function.update_self] at present
      obtain rfl := Option.some.inj present
      exact ⟨same ▸ below,moved,knownAfter,follows.2 _ _ moves⟩
    · rw [Function.update_of_ne self] at present
      obtain ⟨older,view,known,follows⟩ := views other program present
      exact ⟨same ▸ older,view,others other self view known,follows⟩
  | crash pid =>
    simp only [step,Option.map_eq_some_iff] at taken
    obtain ⟨crashed,_,rfl⟩ := taken
    obtain ⟨kept,others⟩ := sound.crashes _ _ pid holds (allowed _ rfl)
    refine ⟨kept,?_⟩
    intro other program present
    dsimp only at present ⊢
    by_cases self : other = pid
    · simp [self] at present
    · rw [Function.update_of_ne self] at present
      obtain ⟨below,view,known,follows⟩ := views other program present
      exact ⟨below,view,others other self view known,follows⟩
  | external event =>
    simp only [step,Option.map_eq_some_iff] at taken
    obtain ⟨state,happened,rfl⟩ := taken
    obtain ⟨kept,others⟩ := sound.externals _ _ event state holds (allowed _ rfl) happened
    refine ⟨kept,?_⟩
    intro pid program present
    obtain ⟨below,view,known,follows⟩ := views pid program present
    exact ⟨below,view,others pid view known,follows⟩
  | start task =>
    simp only [step,Option.map_eq_some_iff] at taken
    obtain ⟨⟨started,state⟩,launched,rfl⟩ := taken
    obtain ⟨kept,⟨view,known,follows⟩,others⟩ :=
      sound.starts _ _ task started state holds (allowed _ rfl) launched
    refine ⟨kept,?_⟩
    intro pid program present
    dsimp only at present ⊢
    by_cases self : pid = pool.fresh
    · subst self
      rw [Function.update_self] at present
      obtain rfl := Option.some.inj present
      exact ⟨Nat.lt_succ_self _,view,known,follows⟩
    · rw [Function.update_of_ne self] at present
      obtain ⟨below,view,known,follows⟩ := views pid program present
      exact ⟨Nat.lt_succ_of_lt below,view,others pid below view known,follows⟩

/-- In sound worlds every program keeps a true view, whatever the others do. -/
theorem reach_coherent (sound : W.Sound P ends guard inv knows) {initial : State}
    {pool : Pool State Err Req Reply} (first : inv 0 initial) (reached : W.Reach guard initial pool) :
    Coherent P ends inv knows pool := by
  refine Machine.Reaches.invariant reached ⟨first,?_⟩ ?_
  · intro pid program absent
    simp [empty] at absent
  · intro state action after coherent allowed taken
    exact step_coherent sound coherent allowed taken

/-- Sound worlds keep their invariant over all runs. -/
theorem reach_inv (sound : W.Sound P ends guard inv knows) {initial : State}
    {pool : Pool State Err Req Reply} (first : inv 0 initial) (reached : W.Reach guard initial pool) :
    inv pool.fresh pool.shared := (reach_coherent sound first reached).1

/-- A program of a reachable pool performs only what a true view allows. -/
theorem reach_performs (sound : W.Sound P ends guard inv knows) {initial : State}
    {pool after : Pool State Err Req Reply} {pid : Nat} {answer : Answer Choice Err}
    (first : inv 0 initial) (reached : W.Reach guard initial pool)
    (taken : W.step pool (.resume pid answer) = some after) :
    ∃ request reply view, W.happening pool (.resume pid answer) =
        some (.performs pid request answer) ∧
      W.answer pool.shared pid request answer = some (reply,after.shared) ∧
      knows pid pool.shared view ∧ P.allows view request := by
  obtain ⟨request,next,reply,running,event,answered,_,_⟩ := step_resume taken
  obtain ⟨_,view,known,follows⟩ := (reach_coherent sound first reached).2 pid _ running
  exact ⟨request,reply,view,event,answered,known,follows.1⟩

/-- When the step is permitted, the program goes on as the protocol says. -/
theorem reach_resumes (sound : W.Sound P ends guard inv knows) {initial : State}
    {pool after : Pool State Err Req Reply} {pid : Nat} {answer : Answer Choice Err}
    (first : inv 0 initial) (reached : W.Reach guard initial pool)
    (allowed : W.Permits guard pool (.resume pid answer))
    (taken : W.step pool (.resume pid answer) = some after) :
    ∃ request reply view next resumed, W.happening pool (.resume pid answer) =
        some (.performs pid request answer) ∧
      W.answer pool.shared pid request answer = some (reply,after.shared) ∧
      knows pid pool.shared view ∧ P.allows view request ∧ P.moves view request reply next ∧
      after.program pid = some resumed ∧ P.Follows resumed next ends := by
  obtain ⟨request,next,reply,running,event,answered,programs,_⟩ := step_resume taken
  obtain ⟨holds,views⟩ := reach_coherent sound first reached
  obtain ⟨below,view,known,follows⟩ := views pid _ running
  obtain ⟨_,⟨moved,moves,_⟩,_⟩ := sound.performs holds below known follows.1 (allowed _ event) answered
  refine ⟨request,reply,view,moved,next reply,event,answered,known,follows.1,moves,?_,follows.2 _ _ moves⟩
  rw [programs,Function.update_self]

end World

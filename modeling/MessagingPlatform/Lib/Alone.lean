import MessagingPlatform.Lib.Pool

/-! A program that runs alone: its requests are answered one after the other and nothing else happens. What
becomes of it can be computed along its syntax, and a pool can do the same. -/
namespace Async

variable {Err Req State A B : Type} {Reply : Req → Type}

/-- What the program settles with and what it leaves behind, if every request of it is answered. -/
def alone (answer : State → (request : Req) → Option (Except Err (Reply request) × State)) :
    Async Err Req Reply A → State → Option (Except Err A × State)
  | .resolve value, state => some (.ok value,state)
  | .reject error, state => some (.error error,state)
  | .await request next, state =>
      (answer state request).bind (fun answered => (next answered.1).alone answer answered.2)

variable {answer : State → (request : Req) → Option (Except Err (Reply request) × State)} {state after : State}

theorem alone_call {request : Req} {reply : Reply request} (answered : answer state request = some (.ok reply,after)) :
    (call request : Async Err Req Reply (Reply request)).alone answer state = some (.ok reply,after) := by
  unfold call alone
  rw [answered]
  rfl

theorem alone_bind {program : Async Err Req Reply A} {f : A → Async Err Req Reply B} {value : A}
    (resolved : program.alone answer state = some (.ok value,after)) :
    (program.bind f).alone answer state = (f value).alone answer after := by
  induction program generalizing state with
  | resolve done =>
    obtain ⟨same,rfl⟩ := Prod.mk.inj (Option.some.inj resolved)
    obtain rfl := Except.ok.inj same
    rfl
  | reject error => cases resolved
  | await request next ih =>
    obtain ⟨answered,served,rest⟩ := Option.bind_eq_some_iff.mp resolved
    change (answer state request).bind _ = _
    rw [served]
    exact ih _ rest

theorem alone_tryCatch {program : Async Err Req Reply A} {handler : Err → Async Err Req Reply A} {value : A}
    (resolved : program.alone answer state = some (.ok value,after)) :
    (program.tryCatch handler).alone answer state = some (.ok value,after) := by
  induction program generalizing state with
  | resolve done => exact resolved
  | reject error => cases resolved
  | await request next ih =>
    obtain ⟨answered,served,rest⟩ := Option.bind_eq_some_iff.mp resolved
    change (answer state request).bind _ = _
    rw [served]
    exact ih _ rest

theorem alone_forM_cons {Item : Type} {item : Item} {rest : List Item} {body : Item → Async Err Req Reply PUnit}
    {done : PUnit} (resolved : (body item).alone answer state = some (.ok done,after)) :
    ((item :: rest).forM body).alone answer state = (rest.forM body).alone answer after :=
  alone_bind resolved

end Async

namespace World

variable {State Err Req : Type} {Reply : Req → Type} {Choice External Start : Type}
  {W : World State Err Req Reply Choice External Start}
  {answer : Nat → State → (request : Req) → Option (Except Err (Reply request) × State)}
  {allowed : Action Choice Err External Start → Prop}

/-- What a pool does for the answers: allowed actions that resume the program with the answer. -/
def Realises (W : World State Err Req Reply Choice External Start) (allowed : Action Choice Err External Start → Prop)
    (answer : Nat → State → (request : Req) → Option (Except Err (Reply request) × State)) : Prop :=
  ∀ (pool : Pool State Err Req Reply) pid request next reply after,
    pool.program pid = some (.await request next) → answer pid pool.shared request = some (reply,after) →
    ∃ actions, (∀ action ∈ actions, allowed action) ∧
      Machine.run W.step pool actions = some ⟨after,Function.update pool.program pid (some (next reply)),pool.fresh⟩

/-- A program that settles alone does so in the pool. -/
theorem run_alone (realises : W.Realises allowed answer) {pool : Pool State Err Req Reply} {pid : Nat}
    {program : Async Err Req Reply Unit} {outcome : Except Err Unit} {after : State}
    (running : pool.program pid = some program) (settles : program.alone (answer pid) pool.shared = some (outcome,after)) :
    ∃ actions settled, (∀ action ∈ actions, allowed action) ∧
      Machine.run W.step pool actions = some ⟨after,Function.update pool.program pid (some settled),pool.fresh⟩ := by
  induction program generalizing pool with
  | resolve value =>
    obtain ⟨_,rfl⟩ := Prod.mk.inj (Option.some.inj settles)
    refine ⟨[],.resolve value,fun _ absent => (List.not_mem_nil absent).elim,?_⟩
    rw [← running,Function.update_eq_self]
    rfl
  | reject error =>
    obtain ⟨_,rfl⟩ := Prod.mk.inj (Option.some.inj settles)
    refine ⟨[],.reject error,fun _ absent => (List.not_mem_nil absent).elim,?_⟩
    rw [← running,Function.update_eq_self]
    rfl
  | await request next ih =>
    obtain ⟨⟨reply,between⟩,answered,rest⟩ := Option.bind_eq_some_iff.mp settles
    obtain ⟨first,permitted,ran⟩ := realises pool pid request next reply between running answered
    obtain ⟨others,settled,tolerated,further⟩ := @ih reply
      ⟨between,Function.update pool.program pid (some (next reply)),pool.fresh⟩ (Function.update_self _ _ _) rest
    refine ⟨first ++ others,settled,?_,?_⟩
    · intro action member
      rcases List.mem_append.mp member with early | late
      · exact permitted action early
      · exact tolerated action late
    · rw [Machine.run_append,ran,Option.bind_some,further,Function.update_idem]

end World

import Mathlib.Data.List.Basic

/-! Promise-returning programs as trees of requests. A program has settled, or it awaits the
answer to one request; the continuation receives a value or the error the promise rejected
with. Sequential evaluation, concurrent pools and protocol proofs share this one syntax. -/

inductive Async (Err Req : Type) (Reply : Req → Type) (Value : Type) where
  | resolve (value : Value)
  | reject (error : Err)
  | await (request : Req) (next : Except Err (Reply request) → Async Err Req Reply Value)

namespace Async

variable {Err Req : Type} {Reply : Req → Type} {A B : Type}

def bind : Async Err Req Reply A → (A → Async Err Req Reply B) → Async Err Req Reply B
  | .resolve value, f => f value
  | .reject error, _ => .reject error
  | .await request next, f => .await request (fun answer => (next answer).bind f)

instance : Monad (Async Err Req Reply) where
  pure := .resolve
  bind := bind

/-- `await call(request)`: a rejected answer is thrown. -/
def call (request : Req) : Async Err Req Reply (Reply request) :=
  .await request (fun
    | .ok reply => .resolve reply
    | .error error => .reject error)

/-- `try { body } catch (err) { handler(err) }`. -/
def tryCatch : Async Err Req Reply A → (Err → Async Err Req Reply A) → Async Err Req Reply A
  | .resolve value, _ => .resolve value
  | .reject error, handler => handler error
  | .await request next, handler => .await request (fun answer => (next answer).tryCatch handler)

/-- `try { body } finally { cleanup }`: an error of the cleanup replaces the outcome. -/
def tryFinally : Async Err Req Reply A → Async Err Req Reply Unit → Async Err Req Reply A
  | .resolve value, cleanup => cleanup.bind (fun _ => .resolve value)
  | .reject error, cleanup => cleanup.bind (fun _ => .reject error)
  | .await request next, cleanup => .await request (fun answer => (next answer).tryFinally cleanup)

@[simp] theorem bind_eq (program : Async Err Req Reply A) (f : A → Async Err Req Reply B) :
    program >>= f = program.bind f := rfl

@[simp] theorem pure_eq (value : A) : (pure value : Async Err Req Reply A) = .resolve value := rfl

def settle : Async Err Req Reply A → Async Err Req Reply (Except Err A)
  | .resolve value => .resolve (.ok value)
  | .reject error => .resolve (.error error)
  | .await request next => .await request (fun answer => (next answer).settle)

theorem bind_resolve (program : Async Err Req Reply A) : program.bind .resolve = program := by
  induction program with
  | resolve value => rfl
  | reject error => rfl
  | await request next ih =>
    simp only [bind,await.injEq,heq_eq_eq,true_and]
    funext answer
    exact ih answer

theorem bind_assoc {C : Type} (program : Async Err Req Reply A) (f : A → Async Err Req Reply B)
    (g : B → Async Err Req Reply C) : (program.bind f).bind g = program.bind (fun value => (f value).bind g) := by
  induction program with
  | resolve value => rfl
  | reject error => rfl
  | await request next ih =>
    simp only [bind,await.injEq,heq_eq_eq,true_and]
    funext answer
    exact ih answer

theorem tryCatch_eq_settle (program : Async Err Req Reply A) (handler : Err → Async Err Req Reply A) :
    program.tryCatch handler = program.settle.bind (fun
      | .ok value => .resolve value
      | .error error => handler error) := by
  induction program with
  | resolve value => rfl
  | reject error => rfl
  | await request next ih =>
    simp only [tryCatch,settle,bind,await.injEq,heq_eq_eq,true_and]
    funext answer
    exact ih answer

def evaluate {State : Type} (answer : State → (request : Req) → Except Err (Reply request) × State) :
    Async Err Req Reply A → State → Except Err A × State
  | .resolve value, state => (.ok value,state)
  | .reject error, state => (.error error,state)
  | .await request next, state =>
      let answered := answer state request
      (next answered.1).evaluate answer answered.2

section evaluation
variable {State : Type} (answer : State → (request : Req) → Except Err (Reply request) × State)

@[simp] theorem evaluate_resolve (value : A) (state : State) :
    (resolve value : Async Err Req Reply A).evaluate answer state = (.ok value,state) := rfl

@[simp] theorem evaluate_reject (error : Err) (state : State) :
    (reject error : Async Err Req Reply A).evaluate answer state = (.error error,state) := rfl

theorem evaluate_call (request : Req) (state : State) :
    (call request : Async Err Req Reply (Reply request)).evaluate answer state =
      answer state request := by
  unfold call evaluate
  cases answered : answer state request with
  | mk outcome after => cases outcome <;> rfl

theorem evaluate_bind (program : Async Err Req Reply A) (f : A → Async Err Req Reply B)
    (state : State) :
    (program.bind f).evaluate answer state =
      match program.evaluate answer state with
      | (.ok value,after) => (f value).evaluate answer after
      | (.error error,after) => (.error error,after) := by
  induction program generalizing state with
  | resolve value => rfl
  | reject error => rfl
  | await request next ih => exact ih _ _

theorem evaluate_bind_ok {program : Async Err Req Reply A} {f : A → Async Err Req Reply B} {state : State}
    {result : B} (resolved : ((program.bind f).evaluate answer state).1 = .ok result) :
    ∃ value after, program.evaluate answer state = (.ok value,after) ∧
      ((f value).evaluate answer after).1 = .ok result := by
  rw [evaluate_bind] at resolved
  cases first : program.evaluate answer state with
  | mk outcome after =>
    rw [first] at resolved
    cases outcome with
    | ok value => exact ⟨value,after,rfl,resolved⟩
    | error error => cases resolved

theorem evaluate_tryCatch (program : Async Err Req Reply A)
    (handler : Err → Async Err Req Reply A) (state : State) :
    (program.tryCatch handler).evaluate answer state =
      match program.evaluate answer state with
      | (.ok value,after) => (.ok value,after)
      | (.error error,after) => (handler error).evaluate answer after := by
  induction program generalizing state with
  | resolve value => rfl
  | reject error => rfl
  | await request next ih => exact ih _ _

theorem evaluate_forM_cons {Item : Type} (item : Item) (rest : List Item)
    (body : Item → Async Err Req Reply PUnit) (state : State) :
    ((item :: rest).forM body).evaluate answer state =
      match (body item).evaluate answer state with
      | (.ok _,after) => (rest.forM body).evaluate answer after
      | (.error error,after) => (.error error,after) := by
  change ((body item).bind (fun _ => rest.forM body)).evaluate answer state = _
  rw [evaluate_bind]
  rcases (body item).evaluate answer state with ⟨outcome,after⟩
  cases outcome <;> rfl

def started {Item : Type} (body : Item → Async Err Req Reply PUnit) : List Item → State → List Item
  | [], _ => []
  | item :: rest, state => item ::
      match (body item).evaluate answer state with
      | (.ok _,after) => started body rest after
      | (.error _,_) => []

theorem started_eq_of_resolves {Item : Type} {items : List Item} {body : Item → Async Err Req Reply PUnit}
    {state : State} (resolves : ((items.forM body).evaluate answer state).1 = .ok ()) :
    started answer body items state = items := by
  induction items generalizing state with
  | nil => rfl
  | cons item rest ih =>
    rw [evaluate_forM_cons] at resolves
    unfold started
    cases tried : (body item).evaluate answer state with
    | mk outcome after =>
      rw [tried] at resolves
      cases outcome with
      | ok done => exact congrArg (List.cons item) (ih resolves)
      | error error => cases resolves

end evaluation

end Async

import MessagingPlatform.Lib.Protocol

/-! A block that is undone when it fails and cleaned up in any case. Both clean-up steps may reject
in turn, and then it is their error that leaves the block. -/
namespace Async

variable {Err Req : Type} {Reply : Req → Type} {A : Type}

/-- `try { body } catch (err) { await undo; throw err } finally { await cleanup }`. -/
def guarded (body : Async Err Req Reply A) (undo cleanup : Async Err Req Reply Unit) : Async Err Req Reply A :=
  tryFinally (tryCatch body (fun error => undo.bind (fun _ => .reject error))) cleanup

/-- The error that leaves the block: that of the last step that rejected. -/
def escaped (error : Err) : (undone cleaned : Except Err Unit) → Err
  | _, .error last => last
  | .error last, .ok _ => last
  | .ok _, .ok _ => error

theorem escaped_eq_iff (error : Err) (undone cleaned : Except Err Unit) : escaped error undone cleaned = error ↔
    (∀ last, cleaned = .error last → last = error) ∧
    (cleaned = .ok () → ∀ last, undone = .error last → last = error) := by
  cases cleaned with
  | error last => simp [escaped]
  | ok done =>
    cases undone with
    | error last => simp [escaped]
    | ok done => simp [escaped]

section evaluation
variable {State : Type} (answer : State → (request : Req) → Except Err (Reply request) × State)

theorem evaluate_tryFinally (program : Async Err Req Reply A) (cleanup : Async Err Req Reply Unit) (state : State) :
    (program.tryFinally cleanup).evaluate answer state =
      match program.evaluate answer state with
      | (outcome,after) =>
          match cleanup.evaluate answer after with
          | (.ok _,last) => (outcome,last)
          | (.error error,last) => (.error error,last) := by
  induction program generalizing state with
  | resolve value =>
    simp only [tryFinally,evaluate_bind,evaluate_resolve]
    rcases cleanup.evaluate answer state with ⟨outcome,last⟩
    cases outcome <;> rfl
  | reject error =>
    simp only [tryFinally,evaluate_bind,evaluate_reject]
    rcases cleanup.evaluate answer state with ⟨outcome,last⟩
    cases outcome <;> rfl
  | await request next ih => exact ih _ _

theorem evaluate_guarded_congr {body other : Async Err Req Reply A} {undo cleanup : Async Err Req Reply Unit}
    {state before : State} (same : body.evaluate answer state = other.evaluate answer before) :
    (guarded body undo cleanup).evaluate answer state = (guarded other undo cleanup).evaluate answer before := by
  unfold guarded
  rw [evaluate_tryFinally,evaluate_tryFinally,evaluate_tryCatch,evaluate_tryCatch,same]

/-- A block whose body fails rejects with the error of the last step that does. -/
theorem evaluate_guarded_error {body : Async Err Req Reply A} {undo cleanup : Async Err Req Reply Unit}
    {state failed : State} {error : Err} (fails : body.evaluate answer state = (.error error,failed)) :
    (guarded body undo cleanup).evaluate answer state =
      (.error (escaped error (undo.evaluate answer failed).1
        (cleanup.evaluate answer (undo.evaluate answer failed).2).1),
        (cleanup.evaluate answer (undo.evaluate answer failed).2).2) := by
  unfold guarded
  rw [evaluate_tryFinally,evaluate_tryCatch,fails]
  dsimp only
  rw [evaluate_bind]
  rcases undo.evaluate answer failed with ⟨undone,last⟩
  cases undone with
  | ok done =>
    simp only [evaluate_reject]
    rcases cleanup.evaluate answer last with ⟨cleaned,final⟩
    cases cleaned <;> rfl
  | error error =>
    dsimp only
    rcases cleanup.evaluate answer last with ⟨cleaned,final⟩
    cases cleaned <;> rfl

theorem evaluate_guarded_ok {body : Async Err Req Reply A} {undo cleanup : Async Err Req Reply Unit}
    {state finished : State} {value : A} (resolves : body.evaluate answer state = (.ok value,finished)) :
    (guarded body undo cleanup).evaluate answer state =
      match cleanup.evaluate answer finished with
      | (.ok _,last) => (.ok value,last)
      | (.error error,last) => (.error error,last) := by
  unfold guarded
  rw [evaluate_tryFinally,evaluate_tryCatch,resolves]

end evaluation

theorem Asks.guarded {named : Req → Prop} {body : Async Err Req Reply A} {undo cleanup : Async Err Req Reply Unit}
    (tried : body.Asks named) (undone : undo.Asks named) (cleaned : cleanup.Asks named) :
    (Async.guarded body undo cleanup).Asks named := by
  apply Asks.tryFinally _ cleaned
  apply tried.tryCatch
  intro error
  exact undone.bind (fun _ => trivial)

end Async

namespace Protocol

variable {View Err Req : Type} {Reply : Req → Type} {A : Type} {P : Protocol View Err Req Reply}

/-- What holds when a block has been undone, if it failed, is kept by its cleanup. -/
theorem Follows.guarded {body : Async Err Req Reply A} {undo cleanup : Async Err Req Reply Unit} {view : View}
    {M N post : View → Except Err A → Prop} (tried : P.Follows body view M)
    (kept : ∀ view value, M view (.ok value) → N view (.ok value))
    (undone : ∀ view error, M view (.error error) → P.Follows undo view (fun after ended => match ended with
      | .ok _ => N after (.error error)
      | .error last => N after (.error last)))
    (cleaned : ∀ view outcome, N view outcome → P.Follows cleanup view (fun after ended => match ended with
      | .ok _ => post after outcome
      | .error last => post after (.error last))) : P.Follows (Async.guarded body undo cleanup) view post := by
  apply Follows.tryFinally (M := N)
  · apply tried.tryCatch kept
    intro after error failed
    exact (undone after error failed).bind (fun _ _ rolledBack => rolledBack) (fun _ _ rejected => rejected)
  · exact cleaned

end Protocol

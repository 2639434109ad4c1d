import MessagingPlatform.Lib.Protocol

/-! Programs over one vocabulary of requests read as programs over another. The replies travel back,
so that a program and its translation are the same up to the names of their requests. -/
namespace Async

variable {Err Req Other : Type} {Reply : Req → Type} {OtherReply : Other → Type} {A B : Type}

def translate (into : Req → Other) (back : (request : Req) → OtherReply (into request) → Reply request) :
    Async Err Req Reply A → Async Err Other OtherReply A
  | .resolve value => .resolve value
  | .reject error => .reject error
  | .await request next => .await (into request) (fun answer => (next (answer.map (back request))).translate into back)

section
variable {into : Req → Other} {back : (request : Req) → OtherReply (into request) → Reply request}

theorem translate_bind (program : Async Err Req Reply A) (f : A → Async Err Req Reply B) :
    (program.bind f).translate into back =
      (program.translate into back).bind (fun value => (f value).translate into back) := by
  induction program with
  | resolve value => rfl
  | reject error => rfl
  | await request next ih =>
    simp only [translate,bind,await.injEq,heq_eq_eq,true_and]
    funext answer
    exact ih _

theorem translate_tryCatch (program : Async Err Req Reply A) (handler : Err → Async Err Req Reply A) :
    (program.tryCatch handler).translate into back =
      (program.translate into back).tryCatch (fun error => (handler error).translate into back) := by
  induction program with
  | resolve value => rfl
  | reject error => rfl
  | await request next ih =>
    simp only [translate,tryCatch,await.injEq,heq_eq_eq,true_and]
    funext answer
    exact ih _

theorem translate_tryFinally (program : Async Err Req Reply A) (cleanup : Async Err Req Reply Unit) :
    (program.tryFinally cleanup).translate into back =
      (program.translate into back).tryFinally (cleanup.translate into back) := by
  induction program with
  | resolve value => exact translate_bind cleanup _
  | reject error => exact translate_bind cleanup _
  | await request next ih =>
    simp only [translate,tryFinally,await.injEq,heq_eq_eq,true_and]
    funext answer
    exact ih _

theorem translate_call (request : Req) :
    (call request : Async Err Req Reply (Reply request)).translate into back =
      (call (into request)).bind (fun reply => .resolve (back request reply)) := by
  simp only [call,translate,bind,await.injEq,heq_eq_eq,true_and]
  funext answer
  cases answer <;> rfl

theorem translate_call_bind (request : Req) (f : Reply request → Async Err Req Reply B) :
    ((call request).bind f).translate into back =
      (call (into request)).bind (fun reply => (f (back request reply)).translate into back) := by
  rw [translate_bind,translate_call,bind_assoc]
  rfl

theorem translate_forM {Item : Type} (items : List Item) (body : Item → Async Err Req Reply PUnit) :
    (items.forM body).translate into back = items.forM (fun item => (body item).translate into back) := by
  induction items with
  | nil => rfl
  | cons item rest ih =>
    change ((body item).bind (fun _ => rest.forM body)).translate into back = _
    rw [translate_bind,ih]
    rfl

theorem translate_translate {Third : Type} {ThirdReply : Third → Type} {onward : Other → Third}
    {home : (request : Other) → ThirdReply (onward request) → OtherReply request} (program : Async Err Req Reply A) :
    (program.translate into back).translate onward home = program.translate (fun request => onward (into request))
      (fun request reply => back request (home (into request) reply)) := by
  induction program with
  | resolve value => rfl
  | reject error => rfl
  | await request next ih =>
    simp only [translate,await.injEq,heq_eq_eq,true_and]
    funext answer
    rw [ih]
    cases answer <;> rfl

/-- A translation is answered as the program itself is by what answers for it. -/
theorem evaluate_translate {State : Type}
    (answer : State → (request : Other) → Except Err (OtherReply request) × State) (program : Async Err Req Reply A)
    (state : State) : (program.translate into back).evaluate answer state = program.evaluate (fun state request =>
      ((answer state (into request)).1.map (back request),(answer state (into request)).2)) state := by
  induction program generalizing state with
  | resolve value => rfl
  | reject error => rfl
  | await request next ih => exact ih _ _

/-- A translation follows the protocol that the program follows, when the two protocols agree on what is translated. -/
theorem follows_translate {View : Type} {P : Protocol View Err Req Reply} {Q : Protocol View Err Other OtherReply}
    (allowed : ∀ view request, P.allows view request → Q.allows view (into request))
    (moves : ∀ before request outcome after, Q.moves before (into request) outcome after →
      P.moves before request (outcome.map (back request)) after)
    {program : Async Err Req Reply A} {view : View} {post : View → Except Err A → Prop}
    (follows : P.Follows program view post) : Q.Follows (program.translate into back) view post := by
  induction program generalizing view with
  | resolve value => exact follows
  | reject error => exact follows
  | await request next ih =>
    exact ⟨allowed view request follows.1,
      fun outcome after moved => ih _ (follows.2 _ _ (moves view request outcome after moved))⟩

theorem Asks.translate {named : Other → Prop} (program : Async Err Req Reply A)
    (asked : ∀ request, named (into request)) : (program.translate into back).Asks named := by
  induction program with
  | resolve value => trivial
  | reject error => trivial
  | await request next ih => exact ⟨asked request,fun answer => ih _⟩

end

end Async

import MessagingPlatform.Lib.Async

/-! Protocols for promise programs. A view is what the program knows about its environment;
a protocol says which request a view allows and which views each answer can lead to. A
program follows the protocol when all its requests are allowed, whatever the answers are. -/

structure Protocol (View Err Req : Type) (Reply : Req → Type) where
  allows : View → Req → Prop
  moves : (before : View) → (request : Req) → Except Err (Reply request) → (after : View) → Prop

namespace Protocol

variable {View Err Req : Type} {Reply : Req → Type} {A B : Type}
  (P : Protocol View Err Req Reply)

def Follows : Async Err Req Reply A → View → (View → Except Err A → Prop) → Prop
  | .resolve value, view, post => post view (.ok value)
  | .reject error, view, post => post view (.error error)
  | .await request next, view, post => P.allows view request ∧
      ∀ answer after, P.moves view request answer after → Follows (next answer) after post

variable {P}

@[simp] theorem follows_resolve {value : A} {view : View} {post : View → Except Err A → Prop} :
    P.Follows (.resolve value) view post ↔ post view (.ok value) := Iff.rfl

@[simp] theorem follows_reject {error : Err} {view : View} {post : View → Except Err A → Prop} :
    P.Follows (.reject error) view post ↔ post view (.error error) := Iff.rfl

theorem Follows.mono {program : Async Err Req Reply A} {view : View}
    {strong weak : View → Except Err A → Prop} (follows : P.Follows program view strong)
    (weaker : ∀ view outcome, strong view outcome → weak view outcome) :
    P.Follows program view weak := by
  induction program generalizing view with
  | resolve value => exact weaker _ _ follows
  | reject error => exact weaker _ _ follows
  | await request next ih =>
    exact ⟨follows.1,fun answer after moved => ih answer (follows.2 answer after moved)⟩

theorem Follows.bind {program : Async Err Req Reply A} {f : A → Async Err Req Reply B}
    {view : View} {M : View → Except Err A → Prop} {post : View → Except Err B → Prop}
    (first : P.Follows program view M)
    (resolved : ∀ view value, M view (.ok value) → P.Follows (f value) view post)
    (rejected : ∀ view error, M view (.error error) → post view (.error error)) :
    P.Follows (program.bind f) view post := by
  induction program generalizing view with
  | resolve value => exact resolved _ _ first
  | reject error => exact rejected _ _ first
  | await request next ih =>
    exact ⟨first.1,fun answer after moved => ih answer (first.2 answer after moved)⟩

theorem Follows.tryCatch {program : Async Err Req Reply A}
    {handler : Err → Async Err Req Reply A} {view : View}
    {M post : View → Except Err A → Prop} (body : P.Follows program view M)
    (resolved : ∀ view value, M view (.ok value) → post view (.ok value))
    (handled : ∀ view error, M view (.error error) → P.Follows (handler error) view post) :
    P.Follows (program.tryCatch handler) view post := by
  induction program generalizing view with
  | resolve value => exact resolved _ _ body
  | reject error => exact handled _ _ body
  | await request next ih =>
    exact ⟨body.1,fun answer after moved => ih answer (body.2 answer after moved)⟩

theorem Follows.tryFinally {program : Async Err Req Reply A} {cleanup : Async Err Req Reply Unit}
    {view : View} {M post : View → Except Err A → Prop}
    (body : P.Follows program view M)
    (cleaned : ∀ view outcome, M view outcome →
      P.Follows cleanup view (fun after ended => match ended with
        | .ok _ => post after outcome
        | .error error => post after (.error error))) :
    P.Follows (program.tryFinally cleanup) view post := by
  induction program generalizing view with
  | resolve value =>
    exact (cleaned _ _ body).bind (fun _ _ done => done) (fun _ _ F => F)
  | reject error =>
    exact (cleaned _ _ body).bind (fun _ _ done => done) (fun _ _ F => F)
  | await request next ih =>
    exact ⟨body.1,fun answer after moved => ih answer (body.2 answer after moved)⟩

theorem Follows.settle {program : Async Err Req Reply A} {view : View} {post : View → Except Err (Except Err A) → Prop}
    (follows : P.Follows program view (fun after outcome => post after (.ok outcome))) :
    P.Follows program.settle view post := by
  induction program generalizing view with
  | resolve value => exact follows
  | reject error => exact follows
  | await request next ih => exact ⟨follows.1,fun answer after moved => ih answer (follows.2 answer after moved)⟩

theorem Follows.call {request : Req} {view : View}
    {post : View → Except Err (Reply request) → Prop} (allowed : P.allows view request)
    (answered : ∀ answer after, P.moves view request answer after → post after answer) :
    P.Follows (Async.call request) view post := by
  refine ⟨allowed,?_⟩
  intro answer after moved
  have settled := answered answer after moved
  cases answer <;> exact settled

/-- A loop keeps an invariant that is indexed by the items still to come; it may end early
only by an error. -/
theorem Follows.forM {Item : Type} {items : List Item} {body : Item → Async Err Req Reply PUnit}
    {view : View} {I : List Item → View → Prop} {F : View → Err → Prop}
    (first : I items view)
    (step : ∀ item rest view, I (item :: rest) view →
      P.Follows (body item) view (fun after outcome => match outcome with
        | .ok _ => I rest after
        | .error error => F after error)) :
    P.Follows (items.forM body) view (fun after outcome => match outcome with
      | .ok _ => I [] after
      | .error error => F after error) := by
  induction items generalizing view with
  | nil => exact first
  | cons item rest ih =>
    exact (step item rest view first).bind (fun _ _ kept => ih kept) (fun _ _ lost => lost)

def Still (P : Protocol View Err Req Reply) (program : Async Err Req Reply A) (view : View) : Prop :=
  P.Follows program view (fun after _ => after = view)

namespace Still

variable {program : Async Err Req Reply A} {view : View}

/-- What comes after a program that leaves the view as it is starts from that view. -/
theorem before (still : P.Still program view) {f : A → Async Err Req Reply B}
    {post : View → Except Err B → Prop} (resolved : ∀ value, P.Follows (f value) view post)
    (rejected : ∀ error, post view (.error error)) : P.Follows (program.bind f) view post := by
  apply Follows.bind still
  · intro after value same
    exact same ▸ resolved value
  · intro after error same
    exact same ▸ rejected error

theorem bind (still : P.Still program view) {f : A → Async Err Req Reply B}
    (continues : ∀ value, P.Still (f value) view) : P.Still (program.bind f) view :=
  still.before continues (fun _ => rfl)

theorem tryCatch (still : P.Still program view) {handler : Err → Async Err Req Reply A}
    (handled : ∀ error, P.Still (handler error) view) : P.Still (program.tryCatch handler) view := by
  apply Follows.tryCatch still (fun _ _ same => same)
  intro after error same
  have here : after = view := same
  exact here ▸ handled error

theorem tryFinally (still : P.Still program view) {cleanup : Async Err Req Reply Unit}
    (cleaned : P.Still cleanup view) : P.Still (program.tryFinally cleanup) view := by
  apply Follows.tryFinally still
  intro after outcome same
  have here : after = view := same
  subst here
  apply Follows.mono cleaned
  intro later ended unchanged
  cases ended <;> exact unchanged

theorem forM {Item : Type} {items : List Item} {body : Item → Async Err Req Reply PUnit}
    (still : ∀ item, P.Still (body item) view) : P.Still (items.forM body) view := by
  induction items with
  | nil => rfl
  | cons item rest ih => exact (still item).bind (fun _ => ih)

end Still

section product
variable {Other : Type} {Q : Protocol Other Err Req Reply}

def prod (P : Protocol View Err Req Reply) (Q : Protocol Other Err Req Reply) :
    Protocol (View × Other) Err Req Reply where
  allows views request := P.allows views.1 request ∧ Q.allows views.2 request
  moves before request answer after :=
    P.moves before.1 request answer after.1 ∧ Q.moves before.2 request answer after.2

theorem Follows.prod {program : Async Err Req Reply A} {view : View} {other : Other}
    {left : View → Except Err A → Prop} {right : Other → Except Err A → Prop}
    (first : P.Follows program view left) (second : Q.Follows program other right) :
    (P.prod Q).Follows program (view,other) (fun views outcome =>
      left views.1 outcome ∧ right views.2 outcome) := by
  induction program generalizing view other with
  | resolve value => exact ⟨first,second⟩
  | reject error => exact ⟨first,second⟩
  | await request next ih =>
    refine ⟨⟨first.1,second.1⟩,?_⟩
    intro answer after moved
    exact ih answer (first.2 answer _ moved.1) (second.2 answer _ moved.2)

end product

/-- Sequential evaluation is one of the runs that a protocol speaks of, when the answers move
the views of the states. -/
theorem Follows.evaluate {State : Type} (answer : State → (request : Req) → Except Err (Reply request) × State)
    (shows : State → View) {program : Async Err Req Reply A} {post : View → Except Err A → Prop}
    (moved : ∀ state request,
      P.moves (shows state) request (answer state request).1 (shows (answer state request).2))
    {state : State} (follows : P.Follows program (shows state) post) :
    post (shows (program.evaluate answer state).2) (program.evaluate answer state).1 := by
  induction program generalizing state with
  | resolve value => exact follows
  | reject error => exact follows
  | await request next ih => exact ih _ (follows.2 _ _ (moved state request))

end Protocol

namespace Async

variable {Err Req : Type} {Reply : Req → Type} {A B : Type}

def Asks (named : Req → Prop) : Async Err Req Reply A → Prop
  | .resolve _ | .reject _ => True
  | .await request next => named request ∧ ∀ answer, Asks named (next answer)

namespace Asks

variable {named : Req → Prop}

theorem call {request : Req} (asked : named request) :
    (Async.call request : Async Err Req Reply (Reply request)).Asks named := by
  refine ⟨asked,?_⟩
  intro answer
  cases answer <;> trivial

theorem any (program : Async Err Req Reply A) : program.Asks (fun _ => True) := by
  induction program with
  | resolve value => trivial
  | reject error => trivial
  | await request next ih => exact ⟨trivial,ih⟩

theorem mono {wider : Req → Prop} {program : Async Err Req Reply A} (asks : program.Asks named)
    (within : ∀ request, named request → wider request) : program.Asks wider := by
  induction program with
  | resolve value => trivial
  | reject error => trivial
  | await request next ih => exact ⟨within request asks.1,fun answer => ih answer (asks.2 answer)⟩

theorem bind {program : Async Err Req Reply A} {f : A → Async Err Req Reply B} (first : program.Asks named)
    (continues : ∀ value, (f value).Asks named) : (program.bind f).Asks named := by
  induction program with
  | resolve value => exact continues value
  | reject error => trivial
  | await request next ih => exact ⟨first.1,fun answer => ih answer (first.2 answer)⟩

theorem tryCatch {program : Async Err Req Reply A} {handler : Err → Async Err Req Reply A}
    (body : program.Asks named) (handled : ∀ error, (handler error).Asks named) :
    (program.tryCatch handler).Asks named := by
  induction program with
  | resolve value => trivial
  | reject error => exact handled error
  | await request next ih => exact ⟨body.1,fun answer => ih answer (body.2 answer)⟩

theorem tryFinally {program : Async Err Req Reply A} {cleanup : Async Err Req Reply Unit}
    (body : program.Asks named) (cleaned : cleanup.Asks named) : (program.tryFinally cleanup).Asks named := by
  induction program with
  | resolve value => exact cleaned.bind (fun _ => trivial)
  | reject error => exact cleaned.bind (fun _ => trivial)
  | await request next ih => exact ⟨body.1,fun answer => ih answer (body.2 answer)⟩

theorem settle {program : Async Err Req Reply A} (body : program.Asks named) : program.settle.Asks named := by
  induction program with
  | resolve value => trivial
  | reject error => trivial
  | await request next ih => exact ⟨body.1,fun answer => ih answer (body.2 answer)⟩

theorem forM {Item : Type} {items : List Item} {body : Item → Async Err Req Reply PUnit}
    (each : ∀ item ∈ items, (body item).Asks named) : (items.forM body).Asks named := by
  induction items with
  | nil => trivial
  | cons item rest ih =>
    apply (each item List.mem_cons_self).bind
    intro done
    exact ih (fun other member => each other (List.mem_cons_of_mem item member))

theorem logged {Event : Type} {answer : List Event → (request : Req) → Except Err (Reply request) × List Event}
    {requestOf : Event → Req}
    (appends : ∀ log request, ∃ event, (answer log request).2 = log ++ [event] ∧ requestOf event = request)
    {program : Async Err Req Reply A} (asks : program.Asks named) {log : List Event} {event : Event}
    (member : event ∈ (program.evaluate answer log).2) : event ∈ log ∨ named (requestOf event) := by
  induction program generalizing log with
  | resolve value => exact .inl member
  | reject error => exact .inl member
  | await request next ih =>
    obtain ⟨made,appended,same⟩ := appends log request
    rcases ih _ (asks.2 _) member with before | now
    · rw [appended] at before
      rcases List.mem_append.mp before with old | this
      · exact .inl old
      · obtain rfl := List.mem_singleton.mp this
        exact .inr (same ▸ asks.1)
    · exact .inr now

theorem unmoved {State View : Type} {answer : State → (request : Req) → Except Err (Reply request) × State}
    {view : State → View} {program : Async Err Req Reply A} (asks : program.Asks named)
    (kept : ∀ state request, named request → view (answer state request).2 = view state) (state : State) :
    view (program.evaluate answer state).2 = view state := by
  induction program generalizing state with
  | resolve value => rfl
  | reject error => rfl
  | await request next ih => exact (ih _ (asks.2 _) _).trans (kept state request asks.1)

/-- A program whose requests all leave a view alone leaves it alone. -/
theorem still {View : Type} {P : Protocol View Err Req Reply} {program : Async Err Req Reply A} {view : View}
    (asks : program.Asks named) (allowed : ∀ request, named request → P.allows view request)
    (unmoved : ∀ request outcome after, named request → P.moves view request outcome after → after = view) :
    P.Still program view := by
  induction program with
  | resolve value => rfl
  | reject error => rfl
  | await request next ih =>
    refine ⟨allowed request asks.1,?_⟩
    intro outcome after moved
    obtain rfl := unmoved request outcome after asks.1 moved
    exact ih outcome (asks.2 outcome)

end Asks

end Async

namespace Protocol

variable {View Err Req : Type} {Reply : Req → Type} {A : Type} {P : Protocol View Err Req Reply}

def only (P : Protocol View Err Req Reply) (named : Req → Prop) : Protocol View Err Req Reply where
  allows view request := P.allows view request ∧ named request
  moves := P.moves

theorem Follows.only {named : Req → Prop} {program : Async Err Req Reply A} {view : View}
    {post : View → Except Err A → Prop} (follows : P.Follows program view post) (asks : program.Asks named) :
    (P.only named).Follows program view post := by
  induction program generalizing view with
  | resolve value => exact follows
  | reject error => exact follows
  | await request next ih =>
    refine ⟨⟨follows.1,asks.1⟩,?_⟩
    intro answer after moved
    exact ih answer (follows.2 answer after moved) (asks.2 answer)

end Protocol

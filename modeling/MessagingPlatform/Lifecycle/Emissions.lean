import Mathlib.Data.List.Nodup
import MessagingPlatform.Lifecycle.Publisher

/-! What the publisher may cost its callers, whatever the broker does: its calls never reject, it
connects once in its life, a call emits its own record once at most, and without the environment
variable it does nothing. After an attempt that has failed, later calls emit nothing. -/
namespace MessagingPlatform.Lifecycle

inductive ConnectProgress where
  | begun
  | connected
  | opened
  | finished
deriving DecidableEq

inductive PublisherView where
  | publishing (record : EventLifecycleRecord) (held : Option Nat) (emitted : Bool)
  | connecting (attempt : Nat) (progress : ConnectProgress)
  | closing

namespace PublisherView

def observe (view : PublisherView) : (request : PublisherRequest) →
    Except Thrown (PublisherReply request) → PublisherView
  | .ensureChannel, .ok (.ready channel) =>
      match view with
      | .publishing record _ emitted => .publishing record channel emitted
      | other => other
  | .connecting _, .ok channel =>
      match view with
      | .publishing record _ emitted => .publishing record channel emitted
      | other => other
  | .publish _ _, _ =>
      match view with
      | .publishing record held _ => .publishing record held true
      | other => other
  | .connect, _ =>
      match view with
      | .connecting attempt _ => .connecting attempt .connected
      | other => other
  | .createChannel, _ =>
      match view with
      | .connecting attempt _ => .connecting attempt .opened
      | other => other
  | .resolved _, _ =>
      match view with
      | .connecting attempt _ => .connecting attempt .finished
      | other => other
  | _, _ => view

end PublisherView

/-- What only touches the fields, or goes to the logger, does not reject. -/
def PublisherRequest.answers (request : PublisherRequest) : Except Thrown (PublisherReply request) → Prop
  | .ok _ => True
  | .error _ => match request with
    | .ensureChannel | .connecting _ | .onError _ | .abandon | .resolved _ => False
    | .publish _ _ | .connect | .createChannel | .assertExchange | .closeChannel | .closeConnection => True

def lifecyclePublishing : Protocol PublisherView Thrown PublisherRequest PublisherReply where
  allows view
    | .ensureChannel | .connecting _ => ∃ record, view = .publishing record none false
    | .publish channel record => view = .publishing record (some channel) false
    | .onError _ => (∃ record channel, view = .publishing record (some channel) true) ∨
        ∃ attempt progress, view = .connecting attempt progress ∧ progress ≠ .finished
    | .connect => ∃ attempt, view = .connecting attempt .begun
    | .createChannel => ∃ attempt, view = .connecting attempt .connected
    | .assertExchange | .abandon => ∃ attempt progress, view = .connecting attempt progress ∧ progress ≠ .finished
    | .resolved attempt => ∃ progress, view = .connecting attempt progress ∧ progress ≠ .finished
    | .closeChannel | .closeConnection => view = .closing
  moves before request outcome after := after = before.observe request outcome ∧ request.answers outcome

def Unharmed {View : Type} (_ : View) (outcome : Except Thrown Unit) : Prop := outcome = .ok ()

theorem publisher_request {request : PublisherRequest} {view : PublisherView}
    {post : PublisherView → Except Thrown (PublisherReply request) → Prop}
    (allowed : lifecyclePublishing.allows view request)
    (answered : ∀ outcome, request.answers outcome → post (view.observe request outcome) outcome) :
    lifecyclePublishing.Follows (EventLifecyclePublisher.request request) view post := by
  apply Protocol.Follows.call allowed
  intro outcome after moved
  obtain ⟨rfl,truth⟩ := moved
  exact answered outcome truth

namespace EventLifecyclePublisher

variable {record : EventLifecycleRecord}

theorem ensureChannel_follows : lifecyclePublishing.Follows ensureChannel (.publishing record none false)
    (fun after outcome => ∃ held, outcome = .ok held ∧ after = .publishing record held false) := by
  unfold ensureChannel
  simp only [Async.bind_eq]
  apply @Protocol.Follows.bind _ _ _ _ _ _ _ _ _ _ (fun after (outcome : Except Thrown Ensured) =>
    match outcome with
    | .ok (.ready channel) => after = .publishing record channel false
    | .ok (.pending _) => after = .publishing record none false
    | .error _ => False)
  · refine publisher_request ⟨record,rfl⟩ ?_
    intro outcome truth
    cases outcome with
    | error error => exact truth
    | ok ensured => cases ensured <;> rfl
  · intro after ensured learned
    cases ensured with
    | ready channel => exact ⟨channel,rfl,learned⟩
    | pending attempt =>
      obtain rfl := learned
      refine publisher_request ⟨record,rfl⟩ ?_
      intro outcome truth
      cases outcome with
      | error error => exact truth.elim
      | ok channel => exact ⟨channel,rfl,rfl⟩
  · intro after error learned
    exact learned.elim

/-- A call of `publish` emits its own record at most once, and does not throw. -/
theorem publish_follows (record : EventLifecycleRecord) :
    lifecyclePublishing.Follows (publish record) (.publishing record none false) Unharmed := by
  unfold publish
  simp only [Async.bind_eq]
  apply ensureChannel_follows.bind
  · intro after held learned
    obtain ⟨_,same,rfl⟩ := learned
    obtain rfl := Except.ok.inj same
    cases held with
    | none => rfl
    | some channel =>
      apply @Protocol.Follows.tryCatch _ _ _ _ _ _ _ _ _ (fun after (outcome : Except Thrown Unit) =>
        after = .publishing record (some channel) true)
      · refine publisher_request rfl ?_
        intro outcome truth
        rfl
      · intro after done learned
        rfl
      · intro after error learned
        obtain rfl := learned
        refine publisher_request (.inl ⟨record,channel,rfl⟩) ?_
        intro outcome truth
        cases outcome with
        | error error => exact truth.elim
        | ok done => rfl
  · intro after error learned
    obtain ⟨held,impossible,_⟩ := learned
    cases impossible

def Under (attempt : Nat) (view : PublisherView) : Prop :=
  ∃ progress, view = .connecting attempt progress ∧ progress ≠ .finished

variable {attempt : Nat}

/-- An attempt to connect does not throw. -/
theorem connect_follows (attempt : Nat) :
    lifecyclePublishing.Follows (connect attempt) (.connecting attempt .begun) Unharmed := by
  have asserts : ∀ view, Under attempt view → lifecyclePublishing.Follows (request .assertExchange) view
      (fun after _ => Under attempt after) := by
    intro view under
    obtain ⟨progress,rfl,running⟩ := under
    refine publisher_request ⟨attempt,progress,rfl,running⟩ ?_
    intro outcome truth
    exact ⟨progress,rfl,running⟩
  have opens : lifecyclePublishing.Follows ((request .createChannel).bind (fun _ => request .assertExchange))
      (.connecting attempt .connected) (fun after _ => Under attempt after) := by
    apply @Protocol.Follows.bind _ _ _ _ _ _ _ _ _ _ (fun after (_ : Except Thrown Unit) => Under attempt after)
    · refine publisher_request ⟨attempt,rfl⟩ ?_
      intro outcome truth
      exact ⟨.opened,rfl,by decide⟩
    · intro after done under
      exact asserts after under
    · intro after error under
      exact under
  unfold connect
  simp only [Async.bind_eq]
  apply @Protocol.Follows.bind _ _ _ _ _ _ _ _ _ _ (fun after outcome => outcome = .ok () ∧ Under attempt after)
  · apply @Protocol.Follows.tryCatch _ _ _ _ _ _ _ _ _ (fun after (_ : Except Thrown Unit) => Under attempt after)
    · apply @Protocol.Follows.bind _ _ _ _ _ _ _ _ _ _ (fun after (_ : Except Thrown Unit) =>
        after = .connecting attempt .connected)
      · refine publisher_request ⟨attempt,rfl⟩ ?_
        intro outcome truth
        rfl
      · intro after done same
        exact same ▸ opens
      · intro after error same
        exact ⟨.connected,same,by decide⟩
    · intro after done under
      exact ⟨rfl,under⟩
    · intro after error under
      obtain ⟨progress,rfl,running⟩ := under
      apply @Protocol.Follows.bind _ _ _ _ _ _ _ _ _ _ (fun later outcome =>
        outcome = .ok () ∧ later = .connecting attempt progress)
      · refine publisher_request (.inr ⟨attempt,progress,rfl,running⟩) ?_
        intro outcome truth
        cases outcome with
        | error error => exact truth.elim
        | ok done => exact ⟨rfl,rfl⟩
      · intro later reported learned
        obtain ⟨_,rfl⟩ := learned
        refine publisher_request ⟨attempt,progress,rfl,running⟩ ?_
        intro outcome truth
        cases outcome with
        | error error => exact truth.elim
        | ok done => exact ⟨rfl,progress,rfl,running⟩
      · intro later error learned
        cases learned.1
  · intro after settled learned
    obtain ⟨_,progress,rfl,running⟩ := learned
    refine publisher_request ⟨progress,rfl,running⟩ ?_
    intro outcome truth
    cases outcome with
    | error error => exact truth.elim
    | ok done => rfl
  · intro after error learned
    cases learned.1

theorem close_follows : lifecyclePublishing.Follows close .closing Unharmed := by
  unfold close
  simp only [Async.bind_eq]
  apply @Protocol.Follows.tryCatch _ _ _ _ _ _ _ _ _ (fun _ (_ : Except Thrown Unit) => True)
  · apply @Protocol.Follows.bind _ _ _ _ _ _ _ _ _ _ (fun after (_ : Except Thrown Unit) => after = .closing)
    · exact publisher_request rfl (fun _ _ => rfl)
    · intro after done same
      subst same
      exact publisher_request rfl (fun _ _ => trivial)
    · intro after error _
      trivial
  · intro after done _
    rfl
  · intro after error _
    rfl

end EventLifecyclePublisher

/-- One attempt to connect is all that there ever is, and what is emitted is the record that a call was
given. -/
structure Lone (settings : PublisherSettings) (fresh : Nat) (state : PublisherState) : Prop where
  promised : state.connecting = none → state.attempts = []
  attempts : state.attempts.length ≤ 1
  connections : state.connections.length ≤ 1
  channels : state.channels.length ≤ 1
  unmade : (∀ attempt ∈ state.attempts, attempt = .unstarted) → state.connections = [] ∧ state.channels = []
  own : ∀ emission ∈ state.wire, emission.pid < fresh ∧ ∃ record now,
    state.called emission.pid = some record ∧ emission.body = .stringify (record.full settings.service now)
  once : (state.wire.map Emission.pid).Nodup
  off : settings.tracing = false → state.attempts = [] ∧ state.channel = none ∧ state.wire = [] ∧
    state.reported = []

def Aware (settings : PublisherSettings) (pid : Nat) (state : PublisherState) : PublisherView → Prop
  | .publishing record held emitted => state.called pid = some record ∧
      (held ≠ none → settings.tracing = true) ∧ (emitted = false → pid ∉ state.wire.map Emission.pid)
  | .connecting _ progress => progress ≠ .finished → settings.tracing = true ∧ state.attempts = [.started pid] ∧
      (progress = .begun → state.connections = []) ∧
      (progress = .begun ∨ progress = .connected → state.channels = [])
  | .closing => True

variable {settings : PublisherSettings} {fresh pid : Nat} {before after state : PublisherState}

structure Shuts (before after : PublisherState) : Prop where
  connecting : after.connecting = before.connecting
  attempts : after.attempts = before.attempts
  connections : after.connections.length = before.connections.length
  channels : after.channels.length = before.channels.length
  channel : after.channel = none ∨ after.channel = before.channel
  wire : after.wire = before.wire
  called : after.called = before.called
  reported : after.reported = before.reported

theorem Shuts.refl (state : PublisherState) : Shuts state state := ⟨rfl,rfl,rfl,rfl,.inr rfl,rfl,rfl,rfl⟩

theorem shuts_channel (state : PublisherState) (channel : Nat) : Shuts state (state.shutChannel channel) :=
  ⟨rfl,rfl,rfl,List.length_modify _ _ _,.inr rfl,rfl,rfl,rfl⟩

theorem shuts_connection (state : PublisherState) (connection : Nat) :
    Shuts state (state.shutConnection connection) :=
  ⟨rfl,rfl,List.length_modify _ _ _,List.length_map _,.inr rfl,rfl,rfl,rfl⟩

theorem eq_nil_of_length {Item : Type} {items others : List Item} (same : items.length = others.length)
    (empty : others = []) : items = [] := by
  rw [empty] at same
  exact List.length_eq_zero_iff.mp same

theorem Lone.shuts (lone : Lone settings fresh before) (shuts : Shuts before after) : Lone settings fresh after where
  promised := by rw [shuts.connecting,shuts.attempts]; exact lone.promised
  attempts := by rw [shuts.attempts]; exact lone.attempts
  connections := by rw [shuts.connections]; exact lone.connections
  channels := by rw [shuts.channels]; exact lone.channels
  unmade := by
    rw [shuts.attempts]
    intro unstarted
    obtain ⟨connections,channels⟩ := lone.unmade unstarted
    exact ⟨eq_nil_of_length shuts.connections connections,eq_nil_of_length shuts.channels channels⟩
  own := by rw [shuts.wire,shuts.called]; exact lone.own
  once := by rw [shuts.wire]; exact lone.once
  off := by
    rw [shuts.attempts,shuts.wire,shuts.reported]
    intro off
    obtain ⟨attempts,channel,rest⟩ := lone.off off
    refine ⟨attempts,?_,rest⟩
    rcases shuts.channel with gone | same
    · exact gone
    · exact same.trans channel

theorem Aware.shuts {view : PublisherView} (aware : Aware settings pid before view) (shuts : Shuts before after) :
    Aware settings pid after view := by
  cases view with
  | publishing record held emitted =>
    obtain ⟨called,traced,unsent⟩ := aware
    exact ⟨(congrFun shuts.called pid).trans called,traced,by rw [shuts.wire]; exact unsent⟩
  | connecting attempt progress =>
    intro running
    obtain ⟨traced,attempts,unconnected,unopened⟩ := aware running
    exact ⟨traced,shuts.attempts.trans attempts,
      fun begun => eq_nil_of_length shuts.connections (unconnected begun),
      fun early => eq_nil_of_length shuts.channels (unopened early)⟩
  | closing => trivial

theorem Aware.finished {attempt : Nat} {progress : ConnectProgress}
    (aware : Aware settings pid state (.connecting attempt progress))
    (others : state.attempts ≠ [.started pid]) : progress = .finished := by
  by_contra running
  exact others (aware running).2.1

/-- What an attempt does to the fields of the state concerns only the program that runs it. -/
theorem Aware.other {other : Nat} (running : before.attempts = [.started pid] ∨ before.attempts = [] ∨
      before.attempts = [.unstarted])
    (apart : other ≠ pid) (called : after.called = before.called) (wire : after.wire = before.wire)
    {view : PublisherView} (aware : Aware settings other before view) : Aware settings other after view := by
  cases view with
  | publishing record held emitted =>
    obtain ⟨own,traced,unsent⟩ := aware
    exact ⟨(congrFun called other).trans own,traced,by rw [wire]; exact unsent⟩
  | connecting attempt progress =>
    have ended : progress = .finished := by
      apply Aware.finished aware
      rcases running with mine | none | unstarted
      · rw [mine]
        simpa using Ne.symm apart
      · simp [none]
      · simp [unstarted]
    exact fun going => absurd ended going
  | closing => trivial

theorem ensureChannel_cases (lone : Lone settings fresh state) :
    (settings.tracing = false ∧ state.ensureChannel settings = (.ready none,state)) ∨
    (settings.tracing = true ∧ ∃ channel, state.channel = some channel ∧
      state.ensureChannel settings = (.ready (some channel),state)) ∨
    (settings.tracing = true ∧ ∃ attempt, state.ensureChannel settings = (.pending attempt,state)) ∨
    (settings.tracing = true ∧ state.attempts = [] ∧ state.ensureChannel settings =
      (.pending 0,{ state with connecting := some 0, attempts := [.unstarted] })) := by
  unfold PublisherState.ensureChannel
  cases traced : settings.tracing with
  | false => exact .inl ⟨rfl,rfl⟩
  | true =>
    refine .inr ?_
    cases held : state.channel with
    | some channel => exact .inl ⟨rfl,channel,rfl,rfl⟩
    | none =>
      refine .inr ?_
      cases promise : state.connecting with
      | some attempt => exact .inl ⟨rfl,attempt,rfl⟩
      | none =>
        have empty := lone.promised promise
        refine .inr ⟨rfl,empty,?_⟩
        simp [empty]

namespace Lone

/-- The first call that needs a channel makes the attempt. -/
theorem attempt (lone : Lone settings fresh state) (traced : settings.tracing = true)
    (empty : state.attempts = []) :
    Lone settings fresh { state with connecting := some 0, attempts := [.unstarted] } where
  promised impossible := by cases impossible
  attempts := Nat.le_refl 1
  connections := lone.connections
  channels := lone.channels
  unmade _ := lone.unmade (by rw [empty]; intro attempt member; cases member)
  own := lone.own
  once := lone.once
  off off := by rw [traced] at off; cases off

theorem emit (lone : Lone settings fresh state) (below : pid < fresh) (traced : settings.tracing = true)
    (unsent : pid ∉ state.wire.map Emission.pid) {record : EventLifecycleRecord}
    (called : state.called pid = some record) (channel : Nat) (now : Int) :
    Lone settings fresh { state with
      wire := state.wire ++ [⟨pid,channel,.stringify (record.full settings.service now)⟩] } where
  promised := lone.promised
  attempts := lone.attempts
  connections := lone.connections
  channels := lone.channels
  unmade := lone.unmade
  own emission member := by
    rcases List.mem_append.mp member with old | new
    · exact lone.own emission old
    · obtain rfl := List.mem_singleton.mp new
      exact ⟨below,record,now,called,rfl⟩
  once := by
    rw [List.map_append]
    apply List.Nodup.append lone.once (List.nodup_singleton _)
    intro other old new
    obtain rfl := List.mem_singleton.mp new
    exact unsent old
  off off := by rw [traced] at off; cases off

theorem report (lone : Lone settings fresh state) (traced : settings.tracing = true) (error : Thrown) :
    Lone settings fresh { state with reported := state.reported ++ [error] } where
  promised := lone.promised
  attempts := lone.attempts
  connections := lone.connections
  channels := lone.channels
  unmade := lone.unmade
  own := lone.own
  once := lone.once
  off off := by rw [traced] at off; cases off

theorem initial (settings : PublisherSettings) : Lone settings 0 .initial where
  promised _ := rfl
  attempts := Nat.zero_le 1
  connections := Nat.zero_le 1
  channels := Nat.zero_le 1
  unmade _ := ⟨rfl,rfl⟩
  own _ member := by cases member
  once := List.nodup_nil
  off _ := ⟨rfl,rfl,rfl,rfl⟩

end Lone

def Served (settings : PublisherSettings) (fresh pid : Nat) (before after : PublisherState)
    (next : PublisherView) : Prop :=
  Lone settings fresh after ∧ Aware settings pid after next ∧
    ∀ other, other ≠ pid → ∀ view, Aware settings other before view → Aware settings other after view

theorem Served.shuts (lone : Lone settings fresh before) {next : PublisherView}
    (aware : Aware settings pid before next) (shuts : Shuts before after) :
    Served settings fresh pid before after next :=
  ⟨lone.shuts shuts,aware.shuts shuts,fun _ _ _ known => known.shuts shuts⟩

section served
variable {record : EventLifecycleRecord} {attempt : Nat} {progress : ConnectProgress}

theorem served_ensureChannel (lone : Lone settings fresh state)
    (aware : Aware settings pid state (.publishing record none false)) :
    Served settings fresh pid state (state.ensureChannel settings).2
      (PublisherView.observe (.publishing record none false) .ensureChannel
        (.ok (state.ensureChannel settings).1)) := by
  obtain ⟨called,_,unsent⟩ := aware
  rcases ensureChannel_cases lone with ⟨_,same⟩ | ⟨traced,channel,_,same⟩ | ⟨_,promise,same⟩ | ⟨traced,empty,same⟩
  · rw [same]
    exact ⟨lone,⟨called,fun held => absurd rfl held,unsent⟩,fun _ _ _ known => known⟩
  · rw [same]
    exact ⟨lone,⟨called,fun _ => traced,unsent⟩,fun _ _ _ known => known⟩
  · rw [same]
    exact ⟨lone,⟨called,fun held => absurd rfl held,unsent⟩,fun _ _ _ known => known⟩
  · rw [same]
    refine ⟨lone.attempt traced empty,⟨called,fun held => absurd rfl held,unsent⟩,?_⟩
    intro other apart view known
    refine known.other (.inr (.inl empty)) apart ?_ ?_ <;> rfl

theorem served_connecting (lone : Lone settings fresh state)
    (aware : Aware settings pid state (.publishing record none false)) :
    Served settings fresh pid state state (.publishing record state.channel false) := by
  refine ⟨lone,⟨aware.1,?_,aware.2.2⟩,fun _ _ _ known => known⟩
  intro held
  by_contra off
  exact held (lone.off (by simpa using off)).2.1

theorem served_publish (lone : Lone settings fresh state) (below : pid < fresh) {channel : Nat}
    (aware : Aware settings pid state (.publishing record (some channel) false)) (now : Int) :
    Served settings fresh pid state { state with
        wire := state.wire ++ [⟨pid,channel,.stringify (record.full settings.service now)⟩] }
      (.publishing record (some channel) true) := by
  obtain ⟨called,traced,unsent⟩ := aware
  refine ⟨lone.emit below (traced (by simp)) (unsent rfl) called channel now,⟨called,traced,?_⟩,?_⟩
  · intro impossible
    cases impossible
  · intro other apart view known
    cases view with
    | publishing record held emitted =>
      obtain ⟨called,traced,unsent⟩ := known
      refine ⟨called,traced,?_⟩
      intro quiet among
      rw [List.map_append] at among
      rcases List.mem_append.mp among with old | new
      · exact unsent quiet old
      · exact apart (List.mem_singleton.mp new)
    | connecting attempt progress => exact known
    | closing => trivial

theorem served_onError (lone : Lone settings fresh state) (traced : settings.tracing = true)
    {view : PublisherView} (aware : Aware settings pid state view) (error : Thrown) :
    Served settings fresh pid state { state with reported := state.reported ++ [error] } view := by
  refine ⟨lone.report traced error,?_,?_⟩
  · cases view <;> exact aware
  · intro other apart known aware
    cases known <;> exact aware

theorem served_connect (lone : Lone settings fresh state)
    (aware : Aware settings pid state (.connecting attempt .begun)) :
    Served settings fresh pid state { state with
        connection := some state.connections.length, connections := state.connections ++ [true] }
      (.connecting attempt .connected) := by
  obtain ⟨traced,attempts,unconnected,unopened⟩ := aware (by decide)
  have empty := unconnected rfl
  refine ⟨⟨lone.promised,lone.attempts,?_,lone.channels,?_,lone.own,lone.once,?_⟩,?_,?_⟩
  · simp [empty]
  · intro unstarted
    have started := unstarted (.started pid) (attempts ▸ List.mem_singleton_self _)
    cases started
  · intro off
    rw [traced] at off
    cases off
  · intro _
    refine ⟨traced,attempts,?_,fun _ => unopened (.inl rfl)⟩
    intro impossible
    cases impossible
  · intro other apart view known
    refine known.other (.inl attempts) apart ?_ ?_ <;> rfl

theorem served_createChannel (lone : Lone settings fresh state)
    (aware : Aware settings pid state (.connecting attempt .connected)) (connection : Nat) :
    Served settings fresh pid state { state with
        channel := some state.channels.length
        channels := state.channels ++ [⟨connection,state.connectionOpen connection⟩] }
      (.connecting attempt .opened) := by
  obtain ⟨traced,attempts,_,unopened⟩ := aware (by decide)
  have empty := unopened (.inr rfl)
  refine ⟨⟨lone.promised,lone.attempts,lone.connections,?_,?_,lone.own,lone.once,?_⟩,?_,?_⟩
  · simp [empty]
  · intro unstarted
    have started := unstarted (.started pid) (attempts ▸ List.mem_singleton_self _)
    cases started
  · intro off
    rw [traced] at off
    cases off
  · intro _
    refine ⟨traced,attempts,?_,?_⟩
    · intro impossible
      cases impossible
    · intro early
      rcases early with impossible | impossible <;> cases impossible
  · intro other apart view known
    refine known.other (.inl attempts) apart ?_ ?_ <;> rfl

theorem served_resolved (lone : Lone settings fresh state) (running : progress ≠ .finished)
    (aware : Aware settings pid state (.connecting attempt progress)) :
    Served settings fresh pid state { state with attempts := state.attempts.set attempt .settled }
      (.connecting attempt .finished) := by
  obtain ⟨traced,attempts,_⟩ := aware running
  refine ⟨⟨?_,?_,lone.connections,lone.channels,?_,lone.own,lone.once,?_⟩,fun finished => absurd rfl finished,?_⟩
  · intro unpromised
    have empty := lone.promised unpromised
    rw [attempts] at empty
    cases empty
  · rw [List.length_set]
    exact lone.attempts
  · intro unstarted
    rw [attempts] at unstarted
    cases attempt with
    | zero => cases unstarted _ (List.mem_singleton_self _)
    | succ later => cases unstarted _ (List.mem_singleton_self _)
  · intro off
    rw [traced] at off
    cases off
  · intro other apart view known
    refine known.other (.inl attempts) apart ?_ ?_ <;> rfl

end served

/-- An answer of the world moves the view as the protocol has it. -/
theorem answers_possible {request : PublisherRequest} {now : Int}
    {reply outcome : Except Thrown (PublisherReply request)}
    (served : before.serve settings pid request now = some (reply,after))
    (possible : outcome = reply ∨ ∃ error : Thrown, request.fails ∧ outcome = .error error) :
    request.answers outcome := by
  rcases possible with rfl | ⟨error,fails,rfl⟩
  · cases request with
    | ensureChannel | onError _ | abandon | resolved _ =>
      obtain ⟨rfl,_⟩ := Prod.mk.inj (Option.some.inj served)
      trivial
    | connecting attempt =>
      obtain ⟨_,same⟩ := Option.ite_none_right_eq_some.mp served
      obtain ⟨rfl,_⟩ := Prod.mk.inj (Option.some.inj same)
      trivial
    | publish _ _ | connect | createChannel | assertExchange | closeChannel | closeConnection =>
      cases outcome <;> trivial
  · cases request <;> trivial

theorem serve_served (lone : Lone settings fresh before) (below : pid < fresh) {view : PublisherView}
    {request : PublisherRequest} (aware : Aware settings pid before view)
    (allowed : lifecyclePublishing.allows view request) {now : Int}
    {reply : Except Thrown (PublisherReply request)}
    (served : before.serve settings pid request now = some (reply,after)) :
    ∀ outcome, (outcome = reply ∨ ∃ error : Thrown, request.fails ∧ outcome = .error error) →
      Served settings fresh pid before after (view.observe request outcome) := by
  intro outcome possible
  have still : Shuts before after → (∀ view', view' = view.observe request outcome → view' = view) →
      Served settings fresh pid before after (view.observe request outcome) := by
    intro shuts same
    rw [same _ rfl]
    exact .shuts lone aware shuts
  cases request with
  | ensureChannel =>
    obtain ⟨record,rfl⟩ := allowed
    obtain ⟨rfl,rfl⟩ := Prod.mk.inj (Option.some.inj served)
    rcases possible with rfl | ⟨error,fails,rfl⟩
    · exact served_ensureChannel lone aware
    · cases fails
  | connecting attempt =>
    obtain ⟨record,rfl⟩ := allowed
    obtain ⟨_,same⟩ := Option.ite_none_right_eq_some.mp served
    obtain ⟨rfl,rfl⟩ := Prod.mk.inj (Option.some.inj same)
    rcases possible with rfl | ⟨error,fails,rfl⟩
    · exact served_connecting lone aware
    · cases fails
  | publish channel record =>
    have held : view = .publishing record (some channel) false := allowed
    subst held
    simp only [PublisherState.serve] at served
    split at served
    next =>
      obtain ⟨_,rfl⟩ := Prod.mk.inj (Option.some.inj served)
      exact served_publish lone below aware now
    next =>
      obtain ⟨_,rfl⟩ := Prod.mk.inj (Option.some.inj served)
      exact ⟨lone,⟨aware.1,aware.2.1,fun impossible => by cases impossible⟩,fun _ _ _ known => known⟩
  | onError error =>
    obtain ⟨_,rfl⟩ := Prod.mk.inj (Option.some.inj served)
    have traced : settings.tracing = true := by
      rcases allowed with ⟨record,channel,rfl⟩ | ⟨attempt,progress,rfl,running⟩
      · exact aware.2.1 (by simp)
      · exact (aware running).1
    have same : view.observe (.onError error) outcome = view := by cases outcome <;> rfl
    rw [same]
    exact served_onError lone traced aware error
  | connect =>
    obtain ⟨attempt,rfl⟩ := allowed
    obtain ⟨_,rfl⟩ := Prod.mk.inj (Option.some.inj served)
    exact served_connect lone aware
  | createChannel =>
    obtain ⟨attempt,rfl⟩ := allowed
    simp only [PublisherState.serve] at served
    split at served
    next connection _ =>
      obtain ⟨_,rfl⟩ := Prod.mk.inj (Option.some.inj served)
      exact served_createChannel lone aware connection
    next =>
      obtain ⟨_,rfl⟩ := Prod.mk.inj (Option.some.inj served)
      obtain ⟨traced,attempts,_⟩ := aware (by decide)
      refine ⟨lone,?_,fun _ _ _ known => known⟩
      intro _
      refine ⟨traced,attempts,?_,?_⟩
      · intro impossible
        cases impossible
      · intro early
        rcases early with impossible | impossible <;> cases impossible
  | assertExchange =>
    refine still ?_ (fun _ same => by rw [same]; cases outcome <;> rfl)
    simp only [PublisherState.serve] at served
    split at served
    next =>
      split at served
      next =>
        obtain ⟨_,rfl⟩ := Prod.mk.inj (Option.some.inj served)
        exact .refl _
      next =>
        obtain ⟨_,rfl⟩ := Prod.mk.inj (Option.some.inj served)
        exact .refl _
    next =>
      obtain ⟨_,rfl⟩ := Prod.mk.inj (Option.some.inj served)
      exact .refl _
  | abandon =>
    refine still ?_ (fun _ same => by rw [same]; cases outcome <;> rfl)
    obtain ⟨_,rfl⟩ := Prod.mk.inj (Option.some.inj served)
    exact ⟨rfl,rfl,rfl,rfl,.inl rfl,rfl,rfl,rfl⟩
  | resolved attempt =>
    obtain ⟨progress,rfl,running⟩ := allowed
    obtain ⟨_,rfl⟩ := Prod.mk.inj (Option.some.inj served)
    exact served_resolved lone running aware
  | closeChannel =>
    refine still ?_ (fun _ same => by rw [same]; cases outcome <;> rfl)
    simp only [PublisherState.serve] at served
    split at served
    next channel _ =>
      split at served
      next =>
        obtain ⟨_,rfl⟩ := Prod.mk.inj (Option.some.inj served)
        exact shuts_channel before channel
      next =>
        obtain ⟨_,rfl⟩ := Prod.mk.inj (Option.some.inj served)
        exact .refl _
    next =>
      obtain ⟨_,rfl⟩ := Prod.mk.inj (Option.some.inj served)
      exact .refl _
  | closeConnection =>
    refine still ?_ (fun _ same => by rw [same]; cases outcome <;> rfl)
    simp only [PublisherState.serve] at served
    split at served
    next connection _ =>
      split at served
      next =>
        obtain ⟨_,rfl⟩ := Prod.mk.inj (Option.some.inj served)
        exact shuts_connection before connection
      next =>
        obtain ⟨_,rfl⟩ := Prod.mk.inj (Option.some.inj served)
        exact .refl _
    next =>
      obtain ⟨_,rfl⟩ := Prod.mk.inj (Option.some.inj served)
      exact .refl _

theorem refused_aware {view : PublisherView} {request : PublisherRequest} (error : Thrown)
    (allowed : lifecyclePublishing.allows view request) (fails : request.fails = true)
    (aware : Aware settings pid state view) : Aware settings pid state (view.observe request (.error error)) := by
  cases request with
  | connect =>
    obtain ⟨attempt,rfl⟩ := allowed
    obtain ⟨traced,attempts,_,unopened⟩ := aware (by decide)
    intro _
    refine ⟨traced,attempts,?_,fun _ => unopened (.inl rfl)⟩
    intro impossible
    cases impossible
  | createChannel =>
    obtain ⟨attempt,rfl⟩ := allowed
    obtain ⟨traced,attempts,_⟩ := aware (by decide)
    intro _
    refine ⟨traced,attempts,?_,?_⟩
    · intro impossible
      cases impossible
    · intro early
      rcases early with impossible | impossible <;> cases impossible
  | assertExchange | closeChannel | closeConnection => exact aware
  | ensureChannel | connecting _ | publish _ _ | onError _ | abandon | resolved _ => cases fails

theorem start_lone (lone : Lone settings fresh before) {task : PublisherTask} {program : PublisherProgram Unit}
    (started : before.start fresh task = some (program,after)) :
    Lone settings (fresh + 1) after ∧
    (∃ view, Aware settings fresh after view ∧ lifecyclePublishing.Follows program view Unharmed) ∧
    ∀ pid, pid < fresh → ∀ view, Aware settings pid before view → Aware settings pid after view := by
  have later : ∀ emission ∈ before.wire, emission.pid < fresh + 1 :=
    fun emission member => Nat.lt_succ_of_lt (lone.own emission member).1
  cases task with
  | publish record =>
    obtain ⟨rfl,rfl⟩ := Prod.mk.inj (Option.some.inj started)
    refine ⟨⟨lone.promised,lone.attempts,lone.connections,lone.channels,lone.unmade,?_,lone.once,lone.off⟩,?_,?_⟩
    · intro emission member
      obtain ⟨older,own⟩ := lone.own emission member
      refine ⟨later emission member,?_⟩
      dsimp only
      rw [Function.update_of_ne older.ne]
      exact own
    · refine ⟨.publishing record none false,⟨Function.update_self _ _ _,fun held => absurd rfl held,?_⟩,
        EventLifecyclePublisher.publish_follows record⟩
      intro _ among
      obtain ⟨emission,member,same⟩ := List.mem_map.mp among
      exact (lone.own emission member).1.ne same
    · intro pid older view aware
      cases view with
      | publishing record held emitted =>
        exact ⟨(Function.update_of_ne older.ne _ _).trans aware.1,aware.2⟩
      | connecting attempt progress => exact aware
      | closing => trivial
  | connect attempt =>
    simp only [PublisherState.start,Option.ite_none_right_eq_some,Option.some.injEq,Prod.mk.injEq] at started
    obtain ⟨unstarted,rfl,rfl⟩ := started
    obtain ⟨bound,same⟩ := List.getElem?_eq_some_iff.mp unstarted
    have single := lone.attempts
    obtain rfl : attempt = 0 := by omega
    have only : before.attempts = [.unstarted] := by
      obtain ⟨first,shape⟩ := List.length_eq_one_iff.mp (Nat.le_antisymm single bound)
      simp only [shape,List.getElem_singleton] at same
      rw [shape,same]
    have set : before.attempts.set 0 (.started fresh) = [.started fresh] := by rw [only]; rfl
    obtain ⟨connections,channels⟩ := lone.unmade (by rw [only]; exact fun _ member => List.mem_singleton.mp member)
    have traced : settings.tracing = true := by
      by_contra off
      have none := (lone.off (by simpa using off)).1
      rw [only] at none
      cases none
    refine ⟨⟨?_,?_,lone.connections,lone.channels,?_,?_,lone.once,?_⟩,?_,?_⟩
    · intro unpromised
      have empty := lone.promised unpromised
      rw [only] at empty
      cases empty
    · rw [List.length_set]
      exact single
    · intro _
      exact ⟨connections,channels⟩
    · intro emission member
      exact ⟨later emission member,(lone.own emission member).2⟩
    · intro off
      rw [traced] at off
      cases off
    · exact ⟨.connecting 0 .begun,fun _ => ⟨traced,set,fun _ => connections,fun _ => channels⟩,
        EventLifecyclePublisher.connect_follows 0⟩
    · intro pid older view aware
      refine @Aware.other settings fresh before _ pid (.inr (.inr only)) older.ne ?_ ?_ view aware <;> rfl
  | close =>
    obtain ⟨rfl,rfl⟩ := Prod.mk.inj (Option.some.inj started)
    refine ⟨⟨lone.promised,lone.attempts,lone.connections,lone.channels,lone.unmade,?_,lone.once,lone.off⟩,?_,
      fun _ _ _ aware => aware⟩
    · intro emission member
      exact ⟨later emission member,(lone.own emission member).2⟩
    · exact ⟨.closing,trivial,EventLifecyclePublisher.close_follows⟩

/-- There is one attempt to connect at most, and every record on the wire is that of a call of its own. -/
theorem publisher_sound (settings : PublisherSettings) : (publisherWorld settings).Sound lifecyclePublishing
    Unharmed whatever (Lone settings) (Aware settings) where
  starts _ _ _ _ _ lone _ started := start_lone lone started
  serves fresh state pid view request answer now reply after lone below aware allowed _ _ served := by
    have kept := serve_served lone below aware allowed served
    obtain ⟨whole,_,others⟩ := kept reply (.inl rfl)
    refine ⟨whole,?_,others⟩
    intro outcome possible
    have failing : outcome = reply ∨ ∃ error : Thrown, request.fails ∧ outcome = .error error := possible
    exact ⟨_,⟨rfl,answers_possible served failing⟩,(kept outcome failing).2.1⟩
  refuses fresh state pid view request error lone aware allowed fails := by
    refine ⟨_,⟨rfl,?_⟩,refused_aware error allowed fails aware⟩
    cases request <;> trivial
  crashes _ _ _ lone _ := ⟨lone,fun _ _ _ aware => aware⟩
  externals fresh state event after lone _ happened := by
    have shuts : Shuts state after := by
      cases event with
      | connectionClosed connection =>
        obtain rfl := Option.some.inj happened
        exact shuts_connection state connection
      | channelClosed channel =>
        obtain rfl := Option.some.inj happened
        exact shuts_channel state channel
    exact ⟨lone.shuts shuts,fun _ _ aware => aware.shuts shuts⟩

/-- Whatever the broker does, no call of the publisher rejects, it makes one connection in its life
at most, every emission is the record of its call, a call emits once at most, and without tracing
nothing is made, emitted or reported. -/
theorem lifecycle_publisher_harmless (settings : PublisherSettings) {pool : PublisherPool}
    (reached : (publisherWorld settings).Reach whatever .initial pool) :
    (∀ pid error, pool.program pid ≠ some (.reject error)) ∧
    pool.shared.attempts.length ≤ 1 ∧ pool.shared.connections.length ≤ 1 ∧ pool.shared.channels.length ≤ 1 ∧
    (pool.shared.wire.map Emission.pid).Nodup ∧
    (∀ emission ∈ pool.shared.wire, ∃ record now, pool.shared.called emission.pid = some record ∧
      emission.body = .stringify (record.full settings.service now)) ∧
    (settings.tracing = false → pool.shared.attempts = [] ∧ pool.shared.wire = [] ∧ pool.shared.reported = []) := by
  obtain ⟨lone,views⟩ := World.reach_coherent (publisher_sound settings) (Lone.initial settings) reached
  refine ⟨?_,lone.attempts,lone.connections,lone.channels,lone.once,fun emission member => (lone.own emission member).2,?_⟩
  · intro pid error ended
    obtain ⟨_,view,_,follows⟩ := views pid _ ended
    have harmed : (Except.error error : Except Thrown Unit) = .ok () := follows
    cases harmed
  · intro off
    obtain ⟨attempts,_,wire,reported⟩ := lone.off off
    exact ⟨attempts,wire,reported⟩

/-- The broker refuses the connection that the first call needs, and the call emits nothing. -/
def refusedConnection : List PublisherAction :=
  [.start (.publish ⟨.received,"CreateMessageEvent.v1","e-1","c-1",none⟩),.resume 0 (.served 0),
    .start (.connect 0),.resume 1 (.refused (.ofMessage "connect ECONNREFUSED")),.resume 1 (.served 0),
    .resume 1 (.served 0),.resume 1 (.served 0),.resume 0 (.served 0)]

def samplePublisher : PublisherSettings := ⟨true,"messaging"⟩

theorem refused_connection_harmless : ∃ pool : PublisherPool,
    Machine.run (publisherWorld samplePublisher).step (World.empty .initial) refusedConnection = some pool ∧
    pool.program 0 = some (.resolve ()) ∧ pool.shared.reported.length = 1 ∧
    (∀ pid error, pool.program pid ≠ some (.reject error)) ∧ pool.shared.attempts.length ≤ 1 := by
  let ended := Machine.run (publisherWorld samplePublisher).step (World.empty .initial) refusedConnection
  let pool := ended.get (by decide)
  have ran : ended = some pool := (Option.some_get _).symm
  have reached : (publisherWorld samplePublisher).Reach whatever .initial pool :=
    Machine.run_reaches ran (by decide)
  obtain ⟨unharmed,attempts,_⟩ := lifecycle_publisher_harmless samplePublisher reached
  exact ⟨pool,ran,rfl,by decide,unharmed,attempts⟩

/-- The attempt to connect is over, and it has left no channel. -/
def PublisherState.GivenUp (state : PublisherState) : Prop := state.attempts = [.settled] ∧ state.channel = none

def muted : Protocol Unit Thrown PublisherRequest PublisherReply where
  allows _
    | .publish _ _ => False
    | _ => True
  moves _ request outcome _ := match request, outcome with
    | .ensureChannel, .ok (.ready channel) => channel = none
    | .connecting _, .ok channel => channel = none
    | _, _ => True

namespace EventLifecyclePublisher

theorem muted_request {request : PublisherRequest} {post : Unit → Except Thrown (PublisherReply request) → Prop}
    (allowed : muted.allows () request) (answered : ∀ outcome, muted.moves () request outcome () → post () outcome) :
    muted.Follows (EventLifecyclePublisher.request request) () post :=
  Protocol.Follows.call allowed (fun outcome _ moved => answered outcome moved)

theorem publish_muted (record : EventLifecycleRecord) : muted.Follows (publish record) () (fun _ _ => True) := by
  unfold publish ensureChannel
  simp only [Async.bind_eq]
  apply @Protocol.Follows.bind _ _ _ _ _ _ _ _ _ _ (fun _ outcome => ∀ channel, outcome = .ok channel → channel = none)
  · apply @Protocol.Follows.bind _ _ _ _ _ _ _ _ _ _ (fun _ (outcome : Except Thrown Ensured) =>
      ∀ channel, outcome = .ok (.ready channel) → channel = none)
    · refine muted_request trivial ?_
      intro outcome moved channel same
      subst same
      exact moved
    · intro _ ensured learned
      cases ensured with
      | ready channel =>
        intro held same
        obtain rfl := Except.ok.inj same
        exact learned _ rfl
      | pending attempt =>
        refine muted_request trivial ?_
        intro outcome moved channel same
        subst same
        exact moved
    · intro _ error _ channel impossible
      cases impossible
  · intro _ channel learned
    obtain rfl := learned channel rfl
    trivial
  · intro _ error _
    trivial

theorem close_muted : muted.Follows close () (fun _ _ => True) := by
  have asks : close.Asks (fun request => request = .closeChannel ∨ request = .closeConnection) := by
    refine Async.Asks.tryCatch ?_ (fun _ => trivial)
    exact Async.Asks.bind (Async.Asks.call (.inl rfl)) (fun _ => Async.Asks.call (.inr rfl))
  have still : muted.Still close () := by
    refine asks.still ?_ (fun _ _ _ _ _ => rfl)
    intro request named
    rcases named with rfl | rfl <;> trivial
  exact still.mono (fun _ _ _ => trivial)

end EventLifecyclePublisher

structure Muted (since : Nat) (pool : PublisherPool) : Prop where
  gaveUp : pool.shared.GivenUp
  older : since ≤ pool.fresh
  wire : ∀ emission ∈ pool.shared.wire, emission.pid < since
  mute : ∀ pid program, since ≤ pid → pool.program pid = some program → muted.Follows program () (fun _ _ => True)

theorem PublisherState.GivenUp.shuts (gaveUp : before.GivenUp) (shuts : Shuts before after) : after.GivenUp := by
  refine ⟨shuts.attempts.trans gaveUp.1,?_⟩
  rcases shuts.channel with none | same
  · exact none
  · exact same.trans gaveUp.2

/-- Once the publisher has given up, a request makes no channel, and only a publish emits. -/
theorem PublisherState.GivenUp.serve (lone : Lone settings fresh before) (gaveUp : before.GivenUp) {view : PublisherView}
    {request : PublisherRequest} (aware : Aware settings pid before view)
    (allowed : lifecyclePublishing.allows view request) {now : Int}
    {reply : Except Thrown (PublisherReply request)}
    (served : before.serve settings pid request now = some (reply,after)) :
    after.GivenUp ∧ muted.moves () request reply () ∧
      (after.wire = before.wire ∨ (¬muted.allows () request ∧ ∃ emission, emission.pid = pid ∧
        after.wire = before.wire ++ [emission])) := by
  obtain ⟨attempts,channel⟩ := gaveUp
  have idle : ∀ attempt progress, view = .connecting attempt progress → progress ≠ .finished → False := by
    rintro attempt progress rfl running
    have running := (aware running).2.1
    rw [attempts] at running
    cases running
  cases request with
  | ensureChannel =>
    obtain ⟨rfl,rfl⟩ := Prod.mk.inj (Option.some.inj served)
    rcases ensureChannel_cases lone with ⟨_,same⟩ | ⟨_,held,found,_⟩ | ⟨_,promise,same⟩ | ⟨_,empty,_⟩
    · rw [same]
      exact ⟨⟨attempts,channel⟩,rfl,.inl rfl⟩
    · rw [channel] at found
      cases found
    · rw [same]
      exact ⟨⟨attempts,channel⟩,trivial,.inl rfl⟩
    · rw [attempts] at empty
      cases empty
  | connecting attempt =>
    obtain ⟨_,same⟩ := Option.ite_none_right_eq_some.mp served
    obtain ⟨rfl,rfl⟩ := Prod.mk.inj (Option.some.inj same)
    exact ⟨⟨attempts,channel⟩,channel,.inl rfl⟩
  | publish number record =>
    simp only [PublisherState.serve] at served
    split at served
    next =>
      obtain ⟨_,rfl⟩ := Prod.mk.inj (Option.some.inj served)
      exact ⟨⟨attempts,channel⟩,trivial,.inr ⟨not_false,_,rfl,rfl⟩⟩
    next =>
      obtain ⟨_,rfl⟩ := Prod.mk.inj (Option.some.inj served)
      exact ⟨⟨attempts,channel⟩,trivial,.inl rfl⟩
  | onError error =>
    obtain ⟨_,rfl⟩ := Prod.mk.inj (Option.some.inj served)
    exact ⟨⟨attempts,channel⟩,trivial,.inl rfl⟩
  | connect =>
    obtain ⟨attempt,same⟩ := allowed
    exact (idle attempt .begun same (by decide)).elim
  | createChannel =>
    obtain ⟨attempt,same⟩ := allowed
    exact (idle attempt .connected same (by decide)).elim
  | assertExchange | abandon =>
    obtain ⟨attempt,progress,same,running⟩ := allowed
    exact (idle attempt progress same running).elim
  | resolved attempt =>
    obtain ⟨progress,same,running⟩ := allowed
    exact (idle attempt progress same running).elim
  | closeChannel =>
    simp only [PublisherState.serve,channel] at served
    obtain ⟨_,rfl⟩ := Prod.mk.inj (Option.some.inj served)
    exact ⟨⟨attempts,channel⟩,trivial,.inl rfl⟩
  | closeConnection =>
    simp only [PublisherState.serve] at served
    split at served
    next connection _ =>
      split at served
      next =>
        obtain ⟨_,rfl⟩ := Prod.mk.inj (Option.some.inj served)
        exact ⟨PublisherState.GivenUp.shuts ⟨attempts,channel⟩ (shuts_connection before connection),trivial,.inl rfl⟩
      next =>
        obtain ⟨_,rfl⟩ := Prod.mk.inj (Option.some.inj served)
        exact ⟨⟨attempts,channel⟩,trivial,.inl rfl⟩
    next =>
      obtain ⟨_,rfl⟩ := Prod.mk.inj (Option.some.inj served)
      exact ⟨⟨attempts,channel⟩,trivial,.inl rfl⟩

theorem Muted.step {since : Nat} {pool next : PublisherPool} {action : PublisherAction}
    (coherent : World.Coherent lifecyclePublishing Unharmed (Lone settings) (Aware settings) pool)
    (quiet : Muted since pool) (taken : (publisherWorld settings).step pool action = some next) :
    Muted since next := by
  obtain ⟨lone,views⟩ := coherent
  obtain ⟨gaveUp,older,wire,mute⟩ := quiet
  cases action with
  | resume pid answer =>
    obtain ⟨request,rest,reply,running,_,answered,programs,same⟩ := World.step_resume taken
    obtain ⟨_,view,aware,follows⟩ := views pid _ running
    have goes : next.shared.GivenUp ∧ muted.moves () request reply () ∧
        ∀ emission ∈ next.shared.wire, emission.pid < since := by
      rcases World.answer_cases answered with ⟨now,served,_,performed,kept⟩ | ⟨untouched,_,error,fails,refused⟩
      · obtain ⟨after,moved,emitted⟩ := gaveUp.serve lone aware follows.1 performed
        refine ⟨after,?_,?_⟩
        · rcases kept with rfl | ⟨error,fails,rfl⟩
          · exact moved
          · cases request <;> trivial
        · intro emission member
          rcases emitted with same | ⟨banned,own,mine,same⟩
          · rw [same] at member
            exact wire emission member
          · rw [same] at member
            rcases List.mem_append.mp member with old | new
            · exact wire emission old
            · obtain rfl := List.mem_singleton.mp new
              rw [mine]
              by_contra late
              exact banned (mute pid _ (Nat.le_of_not_lt late) running).1
      · rw [untouched,refused]
        refine ⟨gaveUp,?_,wire⟩
        cases request <;> trivial
    obtain ⟨after,moved,unsent⟩ := goes
    refine ⟨after,same ▸ older,unsent,?_⟩
    intro other program late present
    rw [programs] at present
    by_cases self : other = pid
    · subst self
      rw [Function.update_self] at present
      obtain rfl := Option.some.inj present
      exact (mute other _ late running).2 reply () moved
    · rw [Function.update_of_ne self] at present
      exact mute other program late present
  | crash pid =>
    obtain ⟨_,_,rfl⟩ := Option.map_eq_some_iff.mp taken
    refine ⟨gaveUp,older,wire,?_⟩
    intro other program late present
    dsimp only at present
    by_cases self : other = pid
    · simp [self] at present
    · rw [Function.update_of_ne self] at present
      exact mute other program late present
  | external event =>
    obtain ⟨after,happened,rfl⟩ := Option.map_eq_some_iff.mp taken
    cases event with
    | connectionClosed connection =>
      obtain rfl := Option.some.inj happened
      exact ⟨gaveUp.shuts (shuts_connection _ connection),older,wire,mute⟩
    | channelClosed channel =>
      obtain rfl := Option.some.inj happened
      exact ⟨gaveUp.shuts (shuts_channel _ channel),older,wire,mute⟩
  | start task =>
    obtain ⟨⟨program,after⟩,launched,rfl⟩ := Option.map_eq_some_iff.mp taken
    have begun : after.GivenUp ∧ after.wire = pool.shared.wire ∧ muted.Follows program () (fun _ _ => True) := by
      cases task with
      | publish record =>
        obtain ⟨rfl,rfl⟩ := Prod.mk.inj (Option.some.inj launched)
        exact ⟨gaveUp,rfl,EventLifecyclePublisher.publish_muted record⟩
      | connect attempt =>
        obtain ⟨unstarted,_⟩ := Option.ite_none_right_eq_some.mp launched
        rw [gaveUp.1] at unstarted
        cases attempt <;> cases unstarted
      | close =>
        obtain ⟨rfl,rfl⟩ := Prod.mk.inj (Option.some.inj launched)
        exact ⟨gaveUp,rfl,EventLifecyclePublisher.close_muted⟩
    obtain ⟨kept,same,follows⟩ := begun
    refine ⟨kept,Nat.le_succ_of_le older,?_,?_⟩
    · intro emission member
      exact wire emission (same ▸ member)
    · intro pid other late present
      dsimp only at present
      by_cases self : pid = pool.fresh
      · subst self
        rw [Function.update_self] at present
        obtain rfl := Option.some.inj present
        exact follows
      · rw [Function.update_of_ne self] at present
        exact mute pid other late present

/-- An attempt that has ended without a channel is the last one: no call that is made afterwards emits
its record, however often the broker comes back. -/
theorem failed_connection_final (settings : PublisherSettings) {pool later : PublisherPool}
    (reached : (publisherWorld settings).Reach whatever .initial pool) (gaveUp : pool.shared.GivenUp)
    (continued : Machine.Reaches (publisherWorld settings).step ((publisherWorld settings).Permits whatever)
      pool later) :
    later.shared.GivenUp ∧ ∀ emission ∈ later.shared.wire, emission.pid < pool.fresh := by
  have coherent := World.reach_coherent (publisher_sound settings) (Lone.initial settings) reached
  have first : Muted pool.fresh pool := by
    refine ⟨gaveUp,Nat.le_refl _,fun emission member => (coherent.1.own emission member).1,?_⟩
    intro pid program late present
    exact absurd (coherent.2 pid program present).1 (Nat.not_lt.mpr late)
  have kept : World.Coherent lifecyclePublishing Unharmed (Lone settings) (Aware settings) later ∧
      Muted pool.fresh later := by
    apply continued.invariant ⟨coherent,first⟩
    intro state action after holds allowed taken
    exact ⟨World.step_coherent (publisher_sound settings) holds.1 allowed taken,holds.2.step holds.1 taken⟩
  exact ⟨kept.2.gaveUp,kept.2.wire⟩

theorem refused_connection_final : ∃ pool later : PublisherPool,
    Machine.run (publisherWorld samplePublisher).step (World.empty .initial) refusedConnection = some pool ∧
    Machine.run (publisherWorld samplePublisher).step pool
      [.start (.publish ⟨.persisted,"CreateMessageEvent.v1","e-1","c-1",none⟩),.resume 2 (.served 0),
        .resume 2 (.served 0)] = some later ∧
    later.program 2 = some (.resolve ()) ∧
    ∀ emission ∈ later.shared.wire, emission.pid < 2 := by
  let ended := Machine.run (publisherWorld samplePublisher).step (World.empty .initial) refusedConnection
  let pool := ended.get (by decide)
  have ran : ended = some pool := (Option.some_get _).symm
  let last := Machine.run (publisherWorld samplePublisher).step pool
      [.start (.publish ⟨.persisted,"CreateMessageEvent.v1","e-1","c-1",none⟩),.resume 2 (.served 0),
        .resume 2 (.served 0)]
  let later := last.get (by decide)
  have went : last = some later := (Option.some_get _).symm
  have reached : (publisherWorld samplePublisher).Reach whatever .initial pool :=
    Machine.run_reaches ran (by decide)
  have final := failed_connection_final samplePublisher reached ⟨by decide,by decide⟩
    (Machine.run_reaches went (by decide))
  exact ⟨pool,later,ran,went,rfl,final.2⟩

end MessagingPlatform.Lifecycle

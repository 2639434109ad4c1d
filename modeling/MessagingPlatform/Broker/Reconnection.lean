import MessagingPlatform.Lib.Machine

/-! The AMQP channel that the two relays and the retry publisher make when they first need it and
keep in three fields. A call of `getChannel` finds the channel, joins the attempt that is under way
or starts one. Connections and channels are numbered as they are made; what follows a reply of the
broker up to the end of the awaiting calls is one step, since nothing else runs in between. -/
namespace MessagingPlatform.Broker

/-- The fields `amqpConnection`, `amqpChannel` and `connecting`; the retry publisher calls the first
two `connection` and `channel`. -/
structure ChannelCache where
  amqpConnection : Option Nat
  amqpChannel : Option Nat
  connecting : Option Nat

inductive AttemptFailure where
  | refused
  | typeError
deriving DecidableEq

inductive Attempt where
  | connecting
  | opening (connection : Nat)
  | resolved
  | rejected (failure : AttemptFailure)
deriving DecidableEq

structure Connection where
  isOpen : Bool
  /-- The handlers for `error` and `close` are attached. -/
  handlers : Bool

structure Channel where
  connection : Nat
  isOpen : Bool

/-- How a call comes to its attempt: it starts it, it joins it while the broker accepts connections
or does not, or it finds the rejected promise of one that is over. -/
inductive Standing where
  | own
  | joined (accepting : Bool)
  | late
deriving DecidableEq

inductive CallOutcome where
  | resolved (channel : Option Nat) (isOpen : Bool)
  | rejected (standing : Standing) (failure : AttemptFailure)
deriving DecidableEq

inductive Call where
  | waiting (attempt : Nat) (standing : Standing)
  | settled (outcome : CallOutcome)
deriving DecidableEq

/-- What the services do not share: whether the handlers are attached to the connection that was
made, or to the one that the field holds by then. -/
structure AmqpClient where
  rereadsConnection : Bool

def OutboxRelayService.amqp : AmqpClient := ⟨false⟩

def GatewayOutboxRelayService.amqp : AmqpClient := ⟨false⟩

def RetryPublisherService.amqp : AmqpClient := ⟨true⟩

structure AmqpState where
  accepting : Bool
  cache : ChannelCache
  attempts : List Attempt
  connections : List Connection
  channels : List Channel
  calls : List Call

inductive AmqpEvent where
  /-- The broker begins to accept connections, or stops. -/
  | accepts (accepting : Bool)
  | getChannel
  | connected (attempt : Nat)
  | connectFailed (attempt : Nat)
  | channelCreated (attempt : Nat)
  | channelFailed (attempt : Nat)
  /-- An `error` or `close` event; a connection can emit several of them. -/
  | connectionEvent (connection : Nat)
  | channelClosed (channel : Nat)

namespace AmqpState

def initial : AmqpState := ⟨true,⟨none,none,none⟩,[],[],[],[]⟩

def channelOpen (state : AmqpState) (channel : Nat) : Bool :=
  state.channels[channel]?.any Channel.isOpen

def connectionOpen (state : AmqpState) (connection : Nat) : Bool :=
  state.connections[connection]?.any Connection.isOpen

def settleNow (state : AmqpState) (outcome : CallOutcome) : AmqpState :=
  { state with calls := state.calls ++ [.settled outcome] }

def getChannel (state : AmqpState) : AmqpState :=
  match state.cache.amqpChannel with
  | some channel => state.settleNow (.resolved (some channel) (state.channelOpen channel))
  | none =>
      match state.cache.connecting with
      | some attempt =>
          match state.attempts[attempt]? with
          | some (.rejected failure) => state.settleNow (.rejected .late failure)
          | some .resolved => state.settleNow (.resolved none false)
          | _ => { state with calls := state.calls ++ [.waiting attempt (.joined state.accepting)] }
      | none => { state with
          cache := { state.cache with connecting := some state.attempts.length }
          attempts := state.attempts ++ [.connecting]
          calls := state.calls ++ [.waiting state.attempts.length .own] }

end AmqpState

def Call.settle (attempt : Nat) (outcome : Standing → CallOutcome) : Call → Call
  | .waiting other standing =>
      if other = attempt then .settled (outcome standing) else .waiting other standing
  | .settled outcome => .settled outcome

namespace AmqpState

def finish (state : AmqpState) (attempt : Nat) (result : Attempt) (outcome : Standing → CallOutcome) :
    AmqpState :=
  { state with
    attempts := state.attempts.set attempt result
    calls := state.calls.map (Call.settle attempt outcome) }

/-- A rejected attempt leaves the fields as they are. -/
def fail (state : AmqpState) (attempt : Nat) (failure : AttemptFailure) : AmqpState :=
  state.finish attempt (.rejected failure) (fun standing => .rejected standing failure)

def attachHandlers (state : AmqpState) (connection : Nat) : AmqpState :=
  { state with connections := state.connections.modify connection (fun made => { made with handlers := true }) }

/-- The handlers are attached after the field has been set. -/
def install (client : AmqpClient) (state : AmqpState) (attempt connection : Nat) : AmqpState :=
  let channel := state.channels.length
  let isOpen := state.connectionOpen connection
  let opened : AmqpState := { state with
    cache := { state.cache with amqpChannel := some channel }
    channels := state.channels ++ [⟨connection,isOpen⟩] }
  match if client.rereadsConnection then state.cache.amqpConnection else some connection with
  | none => opened.fail attempt .typeError
  | some target => (opened.attachHandlers target).finish attempt .resolved
      (fun _ => .resolved (some channel) isOpen)

def closeConnection (state : AmqpState) (connection : Nat) (made : Connection) : AmqpState :=
  { state with
    connections := state.connections.set connection { made with isOpen := false }
    channels := state.channels.map (fun channel =>
      if channel.connection = connection then { channel with isOpen := false } else channel) }

def reset (state : AmqpState) : AmqpState := { state with cache := ⟨none,none,none⟩ }

def step (client : AmqpClient) (state : AmqpState) : AmqpEvent → Option AmqpState
  | .accepts accepting => some { state with accepting }
  | .getChannel => some state.getChannel
  | .connected attempt =>
      if state.attempts[attempt]? = some .connecting then some { state with
        cache := { state.cache with amqpConnection := some state.connections.length }
        attempts := state.attempts.set attempt (.opening state.connections.length)
        connections := state.connections ++ [⟨true,false⟩] }
      else none
  | .connectFailed attempt =>
      if state.attempts[attempt]? = some .connecting then some (state.fail attempt .refused) else none
  | .channelCreated attempt =>
      match state.attempts[attempt]? with
      | some (.opening connection) => some (state.install client attempt connection)
      | _ => none
  | .channelFailed attempt =>
      match state.attempts[attempt]? with
      | some (.opening _) => some (state.fail attempt .refused)
      | _ => none
  | .connectionEvent connection =>
      state.connections[connection]?.map (fun made =>
        let closed := state.closeConnection connection made
        if made.handlers then closed.reset else closed)
  | .channelClosed channel =>
      state.channels[channel]?.map (fun opened =>
        { state with channels := state.channels.set channel { opened with isOpen := false } })

end AmqpState

/-- Whom a refusal of the broker may reach: the call that made the attempt, and a call that joined it
while the broker accepted no connections. -/
def Standing.excused : Standing → Bool
  | .own => true
  | .joined accepting => !accepting
  | .late => false

def Call.Good : Call → Prop
  | .waiting _ _ => True
  | .settled (.resolved channel isOpen) => channel.isSome ∧ isOpen = true
  | .settled (.rejected standing failure) => standing.excused = true ∧ failure = .refused

instance : (call : Call) → Decidable call.Good
  | .waiting _ _ => .isTrue trivial
  | .settled (.resolved _ _) => inferInstanceAs (Decidable (_ ∧ _))
  | .settled (.rejected _ _) => inferInstanceAs (Decidable (_ ∧ _))

def AmqpState.Served (state : AmqpState) : Prop := ∀ call ∈ state.calls, call.Good

instance (state : AmqpState) : Decidable state.Served := inferInstanceAs (Decidable (∀ call ∈ _, _))

/-- When the cache serves its callers: a call finds no closed channel and no rejected promise, no
attempt fails that a call has joined while the broker accepted connections, and a channel is created
on a connection that is still open and, where the field is read again, still in the field. -/
def Sound (client : AmqpClient) (state : AmqpState) : AmqpEvent → Prop
  | .getChannel =>
      match state.cache.amqpChannel with
      | some channel => state.channelOpen channel = true
      | none => ∀ attempt, state.cache.connecting = some attempt →
          ∀ failure, state.attempts[attempt]? ≠ some (.rejected failure)
  | .connectFailed attempt | .channelFailed attempt => ∀ standing, .waiting attempt standing ∈ state.calls →
      standing.excused = true
  | .channelCreated attempt => ∀ connection, state.attempts[attempt]? = some (.opening connection) →
      state.connectionOpen connection = true ∧
        (client.rereadsConnection = true → state.cache.amqpConnection ≠ none)
  | .accepts _ | .connected _ | .connectionEvent _ | .channelClosed _ => True

def Attempt.pending : Attempt → Bool
  | .connecting | .opening _ => true
  | .resolved | .rejected _ => false

/-- A call waits for an attempt that is under way, and each such attempt has the call that started
it. The promise in `connecting` has not resolved as long as there is no channel. -/
structure AmqpState.WellFormed (state : AmqpState) : Prop where
  waits : ∀ attempt standing, .waiting attempt standing ∈ state.calls →
    ∃ phase, state.attempts[attempt]? = some phase ∧ phase.pending = true
  started : ∀ attempt phase, state.attempts[attempt]? = some phase → phase.pending = true →
    .waiting attempt .own ∈ state.calls
  promise : state.cache.amqpChannel = none → ∀ attempt, state.cache.connecting = some attempt →
    ∃ phase, state.attempts[attempt]? = some phase ∧ phase ≠ .resolved

section steps
variable {client : AmqpClient} {state after : AmqpState} {attempt : Nat}

theorem settle_own (outcome : Standing → CallOutcome) (standing : Standing) :
    Call.settle attempt outcome (.waiting attempt standing) = .settled (outcome standing) := if_pos rfl

theorem settle_other (outcome : Standing → CallOutcome) {other : Nat} (apart : other ≠ attempt)
    (standing : Standing) :
    Call.settle attempt outcome (.waiting other standing) = .waiting other standing := if_neg apart

theorem waiting_settle {calls : List Call} {outcome : Standing → CallOutcome} {other : Nat}
    {standing : Standing} :
    .waiting other standing ∈ calls.map (Call.settle attempt outcome) ↔
      other ≠ attempt ∧ .waiting other standing ∈ calls := by
  rw [List.mem_map]
  constructor
  · intro found
    obtain ⟨call,member,same⟩ := found
    cases call with
    | settled outcome => cases same
    | waiting before mine =>
      by_cases here : before = attempt
      · subst here
        rw [settle_own] at same
        cases same
      · rw [settle_other outcome here] at same
        cases same
        exact ⟨here,member⟩
  · intro found
    obtain ⟨apart,member⟩ := found
    exact ⟨_,member,settle_other outcome apart standing⟩

namespace AmqpState

theorem initial_wellFormed : WellFormed initial where
  waits _ _ member := by cases member
  started _ _ found := by cases found
  promise _ _ connecting := by cases connecting

theorem served_finish {result : Attempt} {outcome : Standing → CallOutcome} :
    (state.finish attempt result outcome).Served ↔ state.Served ∧
      ∀ standing, .waiting attempt standing ∈ state.calls → (Call.settled (outcome standing)).Good := by
  unfold Served finish
  simp only [List.forall_mem_map]
  constructor
  · intro served
    refine ⟨?_,?_⟩
    · intro call member
      cases call with
      | waiting other standing => trivial
      | settled outcome => exact served _ member
    · intro standing member
      have good := served _ member
      rwa [settle_own] at good
  · intro served call member
    obtain ⟨before,ended⟩ := served
    cases call with
    | settled outcome => exact before _ member
    | waiting other standing =>
      by_cases same : other = attempt
      · subst same
        rw [settle_own]
        exact ended standing member
      · rw [settle_other outcome same]
        trivial

theorem WellFormed.finish (wellFormed : state.WellFormed) {result : Attempt}
    {outcome : Standing → CallOutcome} (settled : result.pending = false)
    (unresolved : state.cache.amqpChannel = none → result ≠ .resolved) :
    (state.finish attempt result outcome).WellFormed where
  waits other standing member := by
    obtain ⟨apart,before⟩ := waiting_settle.mp member
    obtain ⟨phase,found,pending⟩ := wellFormed.waits other standing before
    exact ⟨phase,(List.getElem?_set_ne apart.symm).trans found,pending⟩
  started other phase found pending := by
    by_cases same : other = attempt
    · subst same
      have ended : (state.attempts.set other result)[other]? = some phase := found
      have bound := (List.getElem?_eq_some_iff.mp ended).1
      rw [List.length_set] at bound
      rw [List.getElem?_set_self bound] at ended
      obtain rfl := Option.some.inj ended
      rw [settled] at pending
      cases pending
    · have before : state.attempts[other]? = some phase :=
        (List.getElem?_set_ne (Ne.symm same)).symm.trans found
      exact waiting_settle.mpr ⟨same,wellFormed.started other phase before pending⟩
  promise none other connecting := by
    obtain ⟨phase,found,unsettled⟩ := wellFormed.promise none other connecting
    by_cases same : other = attempt
    · subst same
      have bound := (List.getElem?_eq_some_iff.mp found).1
      exact ⟨result,List.getElem?_set_self bound,unresolved none⟩
    · exact ⟨phase,(List.getElem?_set_ne (Ne.symm same)).trans found,unsettled⟩

theorem WellFormed.keep (wellFormed : state.WellFormed) (calls : after.calls = state.calls)
    (attempts : after.attempts = state.attempts)
    (cache : after.cache.connecting = none ∨ (after.cache.connecting = state.cache.connecting ∧
      (after.cache.amqpChannel = none → state.cache.amqpChannel = none))) : after.WellFormed where
  waits := by
    rw [calls,attempts]
    exact wellFormed.waits
  started := by
    rw [calls,attempts]
    exact wellFormed.started
  promise none other connecting := by
    rw [attempts]
    rcases cache with reset | ⟨same,channel⟩
    · rw [reset] at connecting
      cases connecting
    · exact wellFormed.promise (channel none) other (same.symm.trans connecting)

theorem served_settleNow {outcome : CallOutcome} :
    (state.settleNow outcome).Served ↔ state.Served ∧ (Call.settled outcome).Good := by
  unfold Served settleNow
  rw [List.forall_mem_append,List.forall_mem_singleton]

theorem WellFormed.settleNow (wellFormed : state.WellFormed) (outcome : CallOutcome) :
    (state.settleNow outcome).WellFormed where
  waits other standing member := by
    rcases List.mem_append.mp member with before | new
    · exact wellFormed.waits other standing before
    · cases List.mem_singleton.mp new
  started other phase found pending := List.mem_append_left _ (wellFormed.started other phase found pending)
  promise := wellFormed.promise

theorem served_waiting {standing : Standing} {calls : List Call}
    (called : after.calls = calls ++ [.waiting attempt standing]) :
    after.Served ↔ ∀ call ∈ calls, call.Good := by
  unfold Served
  rw [called,List.forall_mem_append,List.forall_mem_singleton]
  exact and_iff_left trivial

theorem WellFormed.join (wellFormed : state.WellFormed) {phase : Attempt}
    (found : state.attempts[attempt]? = some phase) (pending : phase.pending = true) :
    WellFormed { state with calls := state.calls ++ [.waiting attempt (.joined state.accepting)] } where
  waits other standing member := by
    rcases List.mem_append.mp member with before | new
    · exact wellFormed.waits other standing before
    · cases List.mem_singleton.mp new
      exact ⟨phase,found,pending⟩
  started other phase found pending := List.mem_append_left _ (wellFormed.started other phase found pending)
  promise := wellFormed.promise

theorem WellFormed.begin (wellFormed : state.WellFormed) (cache : ChannelCache)
    (connecting : cache.connecting = some state.attempts.length) :
    WellFormed { state with
      cache := cache
      attempts := state.attempts ++ [.connecting]
      calls := state.calls ++ [.waiting state.attempts.length .own] } where
  waits other standing member := by
    rcases List.mem_append.mp member with before | new
    · obtain ⟨phase,found,pending⟩ := wellFormed.waits other standing before
      have bound := (List.getElem?_eq_some_iff.mp found).1
      exact ⟨phase,(List.getElem?_append_left bound).trans found,pending⟩
    · cases List.mem_singleton.mp new
      exact ⟨.connecting,List.getElem?_concat_length,rfl⟩
  started other phase found pending := by
    by_cases bound : other < state.attempts.length
    · rw [List.getElem?_append_left bound] at found
      exact List.mem_append_left _ (wellFormed.started other phase found pending)
    · have last := (List.getElem?_eq_some_iff.mp found).1
      rw [List.length_append,List.length_singleton] at last
      have same : other = state.attempts.length := by omega
      rw [same]
      exact List.mem_append_right _ (List.mem_singleton.mpr rfl)
  promise _ other given := by
    have same := connecting.symm.trans given
    obtain rfl := Option.some.inj same
    exact ⟨.connecting,List.getElem?_concat_length,by simp⟩

theorem getChannel_served (wellFormed : state.WellFormed) : state.getChannel.WellFormed ∧
    (state.getChannel.Served ↔ state.Served ∧ Sound client state .getChannel) := by
  unfold getChannel Sound
  cases cached : state.cache.amqpChannel with
  | some channel =>
    refine ⟨wellFormed.settleNow _,?_⟩
    rw [served_settleNow]
    simp [Call.Good]
  | none =>
    cases promised : state.cache.connecting with
    | none =>
      refine ⟨wellFormed.begin _ rfl,?_⟩
      have same := @served_waiting { state with
        cache := { state.cache with connecting := some state.attempts.length }
        attempts := state.attempts ++ [.connecting]
        calls := state.calls ++ [.waiting state.attempts.length .own] } _ _ _ rfl
      simpa [promised,Served] using same
    | some attempt =>
      obtain ⟨phase,found,unresolved⟩ := wellFormed.promise cached attempt promised
      cases phase with
      | resolved => exact absurd rfl unresolved
      | rejected failure =>
        simp only [found]
        refine ⟨wellFormed.settleNow _,?_⟩
        rw [served_settleNow]
        simp [Call.Good,Standing.excused,found]
      | connecting =>
        simp only [found]
        refine ⟨wellFormed.join found rfl,?_⟩
        rw [served_waiting rfl]
        simp [Served,found]
      | opening connection =>
        simp only [found]
        refine ⟨wellFormed.join found rfl,?_⟩
        rw [served_waiting rfl]
        simp [Served,found]

theorem fail_served (wellFormed : state.WellFormed) : (state.fail attempt .refused).WellFormed ∧
    ((state.fail attempt .refused).Served ↔ state.Served ∧
      ∀ standing, .waiting attempt standing ∈ state.calls → standing.excused = true) := by
  refine ⟨wellFormed.finish rfl (fun _ same => by cases same),?_⟩
  unfold fail
  rw [served_finish]
  apply and_congr_right
  intro _
  constructor
  · intro ended standing member
    exact (ended standing member).1
  · intro excused standing member
    exact ⟨excused standing member,rfl⟩

theorem install_served {connection : Nat} (wellFormed : state.WellFormed)
    (found : state.attempts[attempt]? = some (.opening connection)) :
    (state.install client attempt connection).WellFormed ∧
      ((state.install client attempt connection).Served ↔
        state.Served ∧ Sound client state (.channelCreated attempt)) := by
  have starter := wellFormed.started attempt _ found rfl
  have condition : Sound client state (.channelCreated attempt) ↔ state.connectionOpen connection = true ∧
      (client.rereadsConnection = true → state.cache.amqpConnection ≠ none) := by
    unfold Sound
    constructor
    · intro sound
      exact sound connection found
    · intro holds other there
      rw [found] at there
      cases there
      exact holds
  let cache : ChannelCache := { state.cache with amqpChannel := some state.channels.length }
  have opened : ∀ channels connections, WellFormed { state with
      cache := cache, channels := channels, connections := connections } :=
    fun _ _ => wellFormed.keep rfl rfl (.inr ⟨rfl,fun none => by cases none⟩)
  rw [condition]
  unfold install
  dsimp only
  cases target : (if client.rereadsConnection then state.cache.amqpConnection else some connection) with
  | none =>
    refine ⟨(opened _ _).finish rfl (fun _ same => by cases same),?_⟩
    unfold fail
    rw [served_finish]
    constructor
    · intro ended
      exact absurd (ended.2 .own starter).2 (by decide)
    · intro holds
      obtain ⟨_,_,kept⟩ := holds
      by_cases rereads : client.rereadsConnection = true
      · rw [if_pos rereads] at target
        exact absurd target (kept rereads)
      · rw [if_neg rereads] at target
        cases target
  | some here =>
    refine ⟨(opened _ _).finish rfl (fun none => by cases none),?_⟩
    rw [served_finish]
    apply and_congr_right
    intro _
    constructor
    · intro ended
      refine ⟨(ended .own starter).2,?_⟩
      intro rereads none
      rw [if_pos rereads,none] at target
      cases target
    · intro holds standing _
      exact ⟨rfl,holds.1⟩

theorem connected_wellFormed (wellFormed : state.WellFormed) {connection : Nat}
    (found : state.attempts[attempt]? = some .connecting) (same : after.calls = state.calls)
    (attempts : after.attempts = state.attempts.set attempt (.opening connection))
    (connecting : after.cache.connecting = state.cache.connecting)
    (channel : after.cache.amqpChannel = state.cache.amqpChannel) : after.WellFormed := by
  have bound := (List.getElem?_eq_some_iff.mp found).1
  have phases : ∀ (other : Nat) (phase : Attempt), state.attempts[other]? = some phase →
      ∃ next, after.attempts[other]? = some next ∧ next.pending = phase.pending ∧
        (phase ≠ .resolved → next ≠ .resolved) := by
    intro other phase there
    rw [attempts]
    by_cases self : other = attempt
    · subst self
      obtain rfl := Option.some.inj (found.symm.trans there)
      exact ⟨_,List.getElem?_set_self bound,rfl,fun _ same => by cases same⟩
    · exact ⟨phase,(List.getElem?_set_ne (Ne.symm self)).trans there,rfl,id⟩
  constructor
  · intro other standing member
    rw [same] at member
    obtain ⟨phase,there,pending⟩ := wellFormed.waits other standing member
    obtain ⟨next,here,kept,_⟩ := phases other phase there
    exact ⟨next,here,kept.trans pending⟩
  · intro other phase there pending
    rw [same]
    have inside := (List.getElem?_eq_some_iff.mp there).1
    rw [attempts,List.length_set] at inside
    obtain ⟨next,here,kept,_⟩ := phases other _ (List.getElem?_eq_getElem inside)
    obtain rfl := Option.some.inj (here.symm.trans there)
    exact wellFormed.started other _ (List.getElem?_eq_getElem inside) (kept.symm.trans pending)
  · intro none other given
    obtain ⟨phase,there,unresolved⟩ := wellFormed.promise (channel ▸ none) other (connecting ▸ given)
    obtain ⟨next,here,_,kept⟩ := phases other phase there
    exact ⟨next,here,kept unresolved⟩

theorem step_served {event : AmqpEvent} (wellFormed : state.WellFormed)
    (taken : state.step client event = some after) :
    after.WellFormed ∧ (after.Served ↔ state.Served ∧ Sound client state event) := by
  cases event with
  | accepts accepting =>
    obtain rfl := Option.some.inj taken
    exact ⟨wellFormed.keep rfl rfl (.inr ⟨rfl,id⟩),(and_iff_left trivial).symm⟩
  | getChannel =>
    obtain rfl := Option.some.inj taken
    exact getChannel_served wellFormed
  | connected attempt =>
    simp only [step,Option.ite_none_right_eq_some,Option.some.injEq] at taken
    obtain ⟨found,rfl⟩ := taken
    exact ⟨connected_wellFormed wellFormed found rfl rfl rfl rfl,(and_iff_left trivial).symm⟩
  | connectFailed attempt =>
    simp only [step,Option.ite_none_right_eq_some,Option.some.injEq] at taken
    obtain ⟨_,rfl⟩ := taken
    exact fail_served wellFormed
  | channelCreated attempt =>
    simp only [step] at taken
    split at taken
    next connection found =>
      obtain rfl := Option.some.inj taken
      exact install_served wellFormed found
    next => cases taken
  | channelFailed attempt =>
    simp only [step] at taken
    split at taken
    next =>
      obtain rfl := Option.some.inj taken
      exact fail_served wellFormed
    next => cases taken
  | connectionEvent connection =>
    obtain ⟨made,_,rfl⟩ := Option.map_eq_some_iff.mp taken
    by_cases handled : made.handlers = true
    · simp only [if_pos handled]
      exact ⟨wellFormed.keep rfl rfl (.inl rfl),(and_iff_left trivial).symm⟩
    · simp only [if_neg handled]
      exact ⟨wellFormed.keep rfl rfl (.inr ⟨rfl,id⟩),(and_iff_left trivial).symm⟩
  | channelClosed channel =>
    obtain ⟨opened,_,rfl⟩ := Option.map_eq_some_iff.mp taken
    exact ⟨wellFormed.keep rfl rfl (.inr ⟨rfl,id⟩),(and_iff_left trivial).symm⟩

/-- A run serves its callers as long as each of its events finds the cache sound. -/
theorem run_served {final : AmqpState} {events : List AmqpEvent} (wellFormed : state.WellFormed)
    (ran : Machine.run (step client) state events = some final) : final.WellFormed ∧
      (final.Served ↔ state.Served ∧ Machine.Permitted (step client) (Sound client) state events) := by
  induction events generalizing state with
  | nil =>
    obtain rfl := Option.some.inj ran
    exact ⟨wellFormed,(and_iff_left trivial).symm⟩
  | cons event rest ih =>
    obtain ⟨next,taken,ran⟩ := Option.bind_eq_some_iff.mp ran
    obtain ⟨kept,first⟩ := step_served wellFormed taken
    obtain ⟨ended,others⟩ := ih kept ran
    refine ⟨ended,?_⟩
    rw [others,first,and_assoc]
    apply and_congr_right
    intro _
    apply and_congr_right
    intro _
    constructor
    · intro permitted other again
      obtain rfl := Option.some.inj (taken.symm.trans again)
      exact permitted
    · intro permitted
      exact permitted next taken

end AmqpState

end steps

/-- In every history, all calls are served exactly when every step meets the condition, and no
call is left waiting for an attempt that has ended. -/
theorem calls_served_iff (client : AmqpClient) (events : List AmqpEvent) (final : AmqpState)
    (ran : Machine.run (AmqpState.step client) .initial events = some final) :
    (final.Served ↔ Machine.Permitted (AmqpState.step client) (Sound client) .initial events) ∧
      ∀ attempt standing, .waiting attempt standing ∈ final.calls →
        ∃ phase, final.attempts[attempt]? = some phase ∧ phase.pending = true := by
  obtain ⟨wellFormed,served⟩ := AmqpState.run_served AmqpState.initial_wellFormed ran
  have nothing : AmqpState.initial.Served := fun _ member => by cases member
  exact ⟨served.trans (and_iff_right nothing),wellFormed.waits⟩

def reconnection : List AmqpEvent := [.getChannel,.connected 0,.channelCreated 0,.connectionEvent 0,
  .getChannel,.connected 1,.channelCreated 1,.getChannel]

theorem reconnection_served : ∃ final,
    Machine.run (AmqpState.step OutboxRelayService.amqp) .initial reconnection = some final ∧ final.Served ∧
    Machine.Permitted (AmqpState.step OutboxRelayService.amqp) (Sound OutboxRelayService.amqp) .initial
      reconnection := by
  let ran := Machine.run (AmqpState.step OutboxRelayService.amqp) .initial reconnection
  let final := ran.get (by decide)
  have same : ran = some final := (Option.some_get _).symm
  have served : final.Served := by decide
  exact ⟨final,same,served,(calls_served_iff OutboxRelayService.amqp reconnection final same).1.mp served⟩

/-- The broker is down when the first call connects, and up again when the second call starts. -/
def brokerRestart : List AmqpEvent :=
  [.accepts false,.getChannel,.connectFailed 0,.accepts true,.getChannel]

theorem AmqpClient.unserved (client : AmqpClient) : ¬ ∀ events final,
    Machine.run (AmqpState.step client) .initial events = some final → final.Served := by
  intro served
  let ran := Machine.run (AmqpState.step client) .initial brokerRestart
  have second : ∃ final, ran = some final ∧ .settled (.rejected .late .refused) ∈ final.calls :=
    ⟨_,rfl,by decide⟩
  obtain ⟨final,same,member⟩ := second
  exact absurd (served brokerRestart final same _ member).1 (by decide)

/-- None of the three services connects again after an attempt that failed. -/
theorem broker_restart_unserved :
    (¬ ∀ events final, Machine.run (AmqpState.step OutboxRelayService.amqp) .initial events = some final →
      final.Served) ∧
    (¬ ∀ events final, Machine.run (AmqpState.step GatewayOutboxRelayService.amqp) .initial events = some final →
      final.Served) ∧
    (¬ ∀ events final, Machine.run (AmqpState.step RetryPublisherService.amqp) .initial events = some final →
      final.Served) :=
  ⟨OutboxRelayService.amqp.unserved,GatewayOutboxRelayService.amqp.unserved,RetryPublisherService.amqp.unserved⟩

end MessagingPlatform.Broker

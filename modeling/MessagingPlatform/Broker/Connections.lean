import MessagingPlatform.Broker.Reconnection

/-! How many connections a client comes to hold. A cache that is reset forgets the attempt that is under way, whose
connection nobody closes. An `error` that a `close` follows resets the cache twice, and a call between the two has
started the attempt that the second one forgets. -/
namespace MessagingPlatform.Broker

def Attempt.isConnecting : Attempt → Bool
  | .connecting => true
  | _ => false

namespace AmqpState

def openConnections (state : AmqpState) : Nat := state.connections.countP Connection.isOpen

def connectingAttempts (state : AmqpState) : Nat := state.attempts.countP Attempt.isConnecting

/-- Whether a call would start an attempt, once the channel is gone. -/
def vacancy (state : AmqpState) : Nat := if state.cache.connecting.isNone then 1 else 0

def load (state : AmqpState) : Nat := state.openConnections + state.connectingAttempts + state.vacancy

end AmqpState

/-- An event of a connection that is closed already, while the cache holds another attempt. -/
def echoes (state : AmqpState) : AmqpEvent → Bool
  | .connectionEvent connection =>
      state.connections[connection]?.any (fun made => made.handlers && !made.isOpen) && state.cache.connecting.isSome
  | _ => false

/-- A failed attempt, whose promise stays in the cache, and a connection that is closed without making room. -/
def lapses (state : AmqpState) : AmqpEvent → Bool
  | .connectFailed _ => true
  | .connectionEvent connection =>
      state.connections[connection]?.any (fun made => made.isOpen && !(made.handlers && state.cache.connecting.isSome))
  | _ => false

section counting
variable {A : Type} (holds : A → Bool)

theorem countP_set_of {list : List A} {index : Nat} {old : A} (new : A) (found : list[index]? = some old) :
    (list.set index new).countP holds + (if holds old then 1 else 0) =
      list.countP holds + if holds new then 1 else 0 := by
  induction list generalizing index with
  | nil => cases found
  | cons first rest ih =>
    cases index with
    | zero =>
      obtain rfl := Option.some.inj found
      simp only [List.set_cons_zero,List.countP_cons]
      omega
    | succ index =>
      have later := ih (show rest[index]? = some old from found)
      simp only [List.set_cons_succ,List.countP_cons]
      omega

theorem countP_modify_of {change : A → A} (same : ∀ value, holds (change value) = holds value) (list : List A)
    (index : Nat) : (list.modify index change).countP holds = list.countP holds := by
  induction list generalizing index with
  | nil => cases index <;> rfl
  | cons first rest ih =>
    cases index with
    | zero => simp only [List.modify_zero_cons,List.countP_cons,same]
    | succ index => simp only [List.modify_succ_cons,List.countP_cons,ih index]

end counting

section steps
variable {client : AmqpClient} {state after : AmqpState} {attempt : Nat}

theorem getChannel_load (state : AmqpState) : state.getChannel.load = state.load := by
  unfold AmqpState.getChannel
  split
  next => rfl
  next =>
    split
    next => split <;> rfl
    next idle =>
      have started : (state.attempts ++ [Attempt.connecting]).countP Attempt.isConnecting = state.connectingAttempts + 1 := by
        rw [List.countP_append]
        rfl
      have vacant : state.vacancy = 1 := by
        unfold AmqpState.vacancy
        rw [idle]
        rfl
      unfold AmqpState.load
      rw [vacant]
      exact congrArg (state.openConnections + ·) started

/-- An attempt that ends is no longer counted, if it was. -/
theorem finish_load {result phase : Attempt} (outcome : Standing → CallOutcome) (found : state.attempts[attempt]? = some phase)
    (ended : result.isConnecting = false) :
    (state.finish attempt result outcome).load + (if phase.isConnecting then 1 else 0) = state.load := by
  have counted : (state.finish attempt result outcome).connectingAttempts + (if phase.isConnecting then 1 else 0) =
      state.connectingAttempts + if result.isConnecting then 1 else 0 := countP_set_of Attempt.isConnecting result found
  have opens : (state.finish attempt result outcome).openConnections = state.openConnections := rfl
  have vacant : (state.finish attempt result outcome).vacancy = state.vacancy := rfl
  rw [ended,if_neg Bool.false_ne_true] at counted
  unfold AmqpState.load
  omega

theorem install_load {connection : Nat} (found : state.attempts[attempt]? = some (.opening connection)) :
    (state.install client attempt connection).load = state.load := by
  have finished : ∀ (opened : AmqpState) (result : Attempt) (outcome : Standing → CallOutcome),
      opened.attempts = state.attempts → result.isConnecting = false →
      (opened.finish attempt result outcome).load = opened.load := by
    intro opened result outcome same ended
    exact finish_load outcome (same ▸ found) ended
  unfold AmqpState.install
  dsimp only
  split
  next => exact finished _ _ _ rfl rfl
  next target _ =>
    refine Eq.trans (finished _ _ _ rfl rfl) ?_
    have kept : (state.connections.modify target (fun made => { made with handlers := true })).countP Connection.isOpen =
      state.openConnections :=
        @countP_modify_of _ Connection.isOpen (fun made => { made with handlers := true }) (fun _ => rfl) state.connections target
    exact congrArg (· + state.connectingAttempts + state.vacancy) kept

/-- Closing an open connection frees a place; a reset makes room for another attempt. -/
theorem event_load {connection : Nat} {made : Connection} (found : state.connections[connection]? = some made) :
    (if made.handlers then (state.closeConnection connection made).reset else state.closeConnection connection made).load +
        (if lapses state (.connectionEvent connection) then 1 else 0) =
      state.load + if echoes state (.connectionEvent connection) then 1 else 0 := by
  have counted : (state.connections.set connection { made with isOpen := false }).countP Connection.isOpen +
      (if made.isOpen then 1 else 0) = state.openConnections :=
    countP_set_of Connection.isOpen { made with isOpen := false } found
  have closed : (state.closeConnection connection made).load + (if made.isOpen then 1 else 0) = state.load := by
    change (state.connections.set connection { made with isOpen := false }).countP Connection.isOpen +
      state.connectingAttempts + state.vacancy + _ = _
    unfold AmqpState.load
    omega
  have emptied : (state.closeConnection connection made).reset.load + state.vacancy =
      (state.closeConnection connection made).load + 1 := by
    change _ + _ + 1 + state.vacancy = _ + _ + state.vacancy + 1
    exact Nat.add_right_comm _ _ _
  have vacant : state.vacancy = if state.cache.connecting.isNone then 1 else 0 := rfl
  simp only [lapses,echoes,found,Option.any_some]
  obtain ⟨isOpen,handlers⟩ := made
  cases present : state.cache.connecting with
  | none =>
    rw [present] at vacant
    cases isOpen <;> cases handlers <;> simp at closed emptied vacant ⊢ <;> omega
  | some attempt =>
    rw [present] at vacant
    cases isOpen <;> cases handlers <;> simp at closed emptied vacant ⊢ <;> omega

theorem step_load {event : AmqpEvent} (taken : state.step client event = some after) :
    after.load + (if lapses state event then 1 else 0) = state.load + if echoes state event then 1 else 0 := by
  cases event with
  | accepts accepting =>
    obtain rfl := Option.some.inj taken
    rfl
  | getChannel =>
    obtain rfl := Option.some.inj taken
    exact getChannel_load state
  | connected attempt =>
    simp only [AmqpState.step,Option.ite_none_right_eq_some,Option.some.injEq] at taken
    obtain ⟨found,rfl⟩ := taken
    have counted : (state.attempts.set attempt (.opening state.connections.length)).countP Attempt.isConnecting + 1 =
      state.connectingAttempts := countP_set_of Attempt.isConnecting _ found
    have opened : (state.connections ++ [Connection.mk true false]).countP Connection.isOpen = state.openConnections + 1 := by
      rw [List.countP_append]
      rfl
    change (state.connections ++ [Connection.mk true false]).countP Connection.isOpen +
      (state.attempts.set attempt (.opening state.connections.length)).countP Attempt.isConnecting + state.vacancy =
        state.openConnections + state.connectingAttempts + state.vacancy
    omega
  | connectFailed attempt =>
    simp only [AmqpState.step,Option.ite_none_right_eq_some,Option.some.injEq] at taken
    obtain ⟨found,rfl⟩ := taken
    exact finish_load _ found rfl
  | channelCreated attempt =>
    simp only [AmqpState.step] at taken
    split at taken
    next connection found =>
      obtain rfl := Option.some.inj taken
      exact install_load found
    next => cases taken
  | channelFailed attempt =>
    simp only [AmqpState.step] at taken
    split at taken
    next connection found =>
      obtain rfl := Option.some.inj taken
      exact finish_load _ found rfl
    next => cases taken
  | connectionEvent connection =>
    obtain ⟨made,found,rfl⟩ := Option.map_eq_some_iff.mp taken
    exact event_load found
  | channelClosed channel =>
    obtain ⟨opened,_,rfl⟩ := Option.map_eq_some_iff.mp taken
    rfl

/-- Over a history the connections that are open or may still open, with the vacancy of the cache, change by
the echoes and the lapses alone. -/
theorem run_load {events : List AmqpEvent} (ran : Machine.run (AmqpState.step client) state events = some after) :
    after.load + Machine.tally (AmqpState.step client) lapses state events =
      state.load + Machine.tally (AmqpState.step client) echoes state events := by
  induction events generalizing state with
  | nil =>
    obtain rfl := Option.some.inj ran
    rfl
  | cons event rest ih =>
    obtain ⟨next,taken,ran⟩ := Option.bind_eq_some_iff.mp ran
    have first := step_load taken
    have others := ih ran
    rw [Machine.tally_cons taken,Machine.tally_cons taken]
    omega

end steps

/-! Every connection can leave one behind it. -/

section leaks
variable (client : AmqpClient) {state : AmqpState}

/-- An attempt that succeeds, whatever has become of the cache. -/
theorem attempt_opened {attempt : Nat} (found : state.attempts[attempt]? = some .connecting) :
    ∃ after, Machine.run (AmqpState.step client) state [.connected attempt,.channelCreated attempt] = some after ∧
      after.attempts = state.attempts.set attempt .resolved ∧ after.connections = state.connections ++ [⟨true,true⟩] := by
  have bound := (List.getElem?_eq_some_iff.mp found).1
  have opening : (state.attempts.set attempt (.opening state.connections.length))[attempt]? =
      some (.opening state.connections.length) := List.getElem?_set_self bound
  have attached : (state.connections ++ [Connection.mk true false]).modify state.connections.length
      (fun made => { made with handlers := true }) = state.connections ++ [⟨true,true⟩] := by
    rw [List.modify_eq_set_getElem?]
    simp
  cases again : client.rereadsConnection <;>
    simp [Machine.run,AmqpState.step,found,opening,AmqpState.install,again,AmqpState.attachHandlers,AmqpState.finish,attached]

/-- An event of a connection with handlers, and a call after it. -/
theorem attempt_forgotten {connection : Nat} {isOpen : Bool} (found : state.connections[connection]? = some ⟨isOpen,true⟩) :
    ∃ after, Machine.run (AmqpState.step client) state [.connectionEvent connection,.getChannel] = some after ∧
      after.attempts = state.attempts ++ [.connecting] ∧
      after.connections = state.connections.set connection ⟨false,true⟩ := by
  simp [Machine.run,AmqpState.step,found,AmqpState.closeConnection,AmqpState.reset,AmqpState.getChannel]

/-- After so many rounds. The connections from `rounds` on are open, and the cache knows one of them. -/
structure Leaking (rounds : Nat) (state : AmqpState) : Prop where
  attempts : state.attempts.length = 2 * rounds + 1
  connections : state.connections.length = 2 * rounds + 1
  live : ∀ connection, rounds ≤ connection → connection < 2 * rounds + 1 →
    state.connections[connection]? = some ⟨true,true⟩
  opened : state.openConnections = rounds + 1

def emitted (connection : Nat) (events : List AmqpEvent) : Nat :=
  events.countP (fun event => match event with
    | .connectionEvent other => other == connection
    | _ => false)

def leakingRound (round : Nat) : List AmqpEvent :=
  [.connectionEvent round,.getChannel] ++ [.connectionEvent round,.getChannel] ++
  [.connected (2 * round + 1),.channelCreated (2 * round + 1)] ++ [.connected (2 * round + 2),.channelCreated (2 * round + 2)]

theorem Leaking.round {round : Nat} (leaking : Leaking round state) :
    ∃ after, Machine.run (AmqpState.step client) state (leakingRound round) = some after ∧ Leaking (round + 1) after := by
  have here := leaking.live round (Nat.le_refl _) (by omega)
  obtain ⟨first,ran₁,attempts₁,connections₁⟩ := attempt_forgotten client here
  have closed : first.connections[round]? = some ⟨false,true⟩ := by
    rw [connections₁]
    exact List.getElem?_set_self (List.getElem?_eq_some_iff.mp here).1
  obtain ⟨second,ran₂,attempts₂,connections₂⟩ := attempt_forgotten client closed
  have waiting₁ : second.attempts[2 * round + 1]? = some .connecting := by
    rw [attempts₂,attempts₁,← leaking.attempts]
    simp
  obtain ⟨third,ran₃,attempts₃,connections₃⟩ := attempt_opened client waiting₁
  have waiting₂ : third.attempts[2 * round + 2]? = some .connecting := by
    have last : 2 * round + 2 = (state.attempts ++ [Attempt.connecting]).length := by simp [leaking.attempts]
    rw [attempts₃,List.getElem?_set_ne (by omega),attempts₂,attempts₁,last]
    exact List.getElem?_concat_length
  obtain ⟨after,ran₄,attempts₄,connections₄⟩ := attempt_opened client waiting₂
  refine ⟨after,?_,?_⟩
  · unfold leakingRound
    rw [Machine.run_append,Machine.run_append,Machine.run_append,ran₁,Option.bind_some,ran₂,Option.bind_some,ran₃,
      Option.bind_some,ran₄]
  have connections : after.connections = state.connections.set round ⟨false,true⟩ ++ [⟨true,true⟩,⟨true,true⟩] := by
    rw [connections₄,connections₃,connections₂,connections₁,List.set_set,List.append_assoc]
    rfl
  refine ⟨?_,?_,?_,?_⟩
  · rw [attempts₄,attempts₃,attempts₂,attempts₁]
    simp [leaking.attempts]
    omega
  · rw [connections]
    simp [leaking.connections]
    omega
  · intro connection older newer
    rw [connections]
    by_cases before : connection < 2 * round + 1
    · rw [List.getElem?_append_left (by simp [leaking.connections,before]),List.getElem?_set_ne (by omega)]
      exact leaking.live connection (by omega) before
    · rw [List.getElem?_append_right (by simp [leaking.connections]; omega),List.length_set,leaking.connections]
      have last : connection - (2 * round + 1) = 0 ∨ connection - (2 * round + 1) = 1 := by omega
      rcases last with zero | one
      · rw [zero]
        rfl
      · rw [one]
        rfl
  · have counted := countP_set_of Connection.isOpen ⟨false,true⟩ here
    have before : state.connections.countP Connection.isOpen = round + 1 := leaking.opened
    unfold AmqpState.openConnections
    rw [connections,List.countP_append]
    change _ + 2 = _
    simp at counted
    omega

theorem emitted_round (connection round : Nat) :
    emitted connection (leakingRound round) = if connection = round then 2 else 0 := by
  by_cases mine : connection = round
  · subst mine
    simp [emitted,leakingRound]
  · simp [emitted,leakingRound,mine,Ne.symm mine]

theorem leaks (rounds : Nat) : ∃ events final,
    Machine.run (AmqpState.step client) .initial events = some final ∧
    (∀ connection, emitted connection events ≤ if connection < rounds then 2 else 0) ∧ Leaking rounds final := by
  induction rounds with
  | zero =>
    have begun : (AmqpState.initial.getChannel).attempts[0]? = some .connecting := rfl
    obtain ⟨after,ran,attempts,connections⟩ := attempt_opened client begun
    refine ⟨[.getChannel,.connected 0,.channelCreated 0],after,ran,fun _ => Nat.le_refl 0,?_,?_,?_,?_⟩
    · rw [attempts]
      rfl
    · rw [connections]
      rfl
    · intro connection _ below
      obtain rfl : connection = 0 := by omega
      rw [connections]
      rfl
    · unfold AmqpState.openConnections
      rw [connections]
      rfl
  | succ round ih =>
    obtain ⟨events,final,ran,few,leaking⟩ := ih
    obtain ⟨after,next,further⟩ := leaking.round client
    refine ⟨events ++ leakingRound round,after,?_,?_,further⟩
    · rw [Machine.run_append,ran,Option.bind_some,next]
    · intro connection
      have before := few connection
      have added := emitted_round connection round
      have both : emitted connection (events ++ leakingRound round) =
          emitted connection events + emitted connection (leakingRound round) := List.countP_append
      split at before <;> split at added <;> split <;> omega

end leaks

/-- In every history of any of the three clients, the open connections are bounded by the echoes: with none there is
one at most. With echoes there can be any number, even if no connection emits more than two events. -/
theorem connections_balanced (client : AmqpClient) :
    (∀ events final, Machine.run (AmqpState.step client) .initial events = some final →
      final.load + Machine.tally (AmqpState.step client) lapses .initial events =
        1 + Machine.tally (AmqpState.step client) echoes .initial events ∧
      (Machine.Permitted (AmqpState.step client) (fun state event => echoes state event = false) .initial events →
        final.openConnections ≤ 1)) ∧
    ∀ number, ∃ events final, Machine.run (AmqpState.step client) .initial events = some final ∧
      (∀ connection, emitted connection events ≤ 2) ∧ final.openConnections = number + 1 := by
  refine ⟨?_,?_⟩
  · intro events final ran
    have balance := run_load ran
    refine ⟨balance,?_⟩
    intro silent
    rw [(Machine.tally_eq_zero_iff ran).mpr silent] at balance
    have one : AmqpState.initial.load = 1 := rfl
    unfold AmqpState.load at balance one
    omega
  · intro number
    obtain ⟨events,final,ran,few,leaking⟩ := leaks client number
    refine ⟨events,final,ran,?_,leaking.opened⟩
    intro connection
    have bound := few connection
    split at bound <;> omega

/-- One connection fails, with a call after its `error` and another after its `close`. -/
def echoedFailure : List AmqpEvent := [.getChannel,.connected 0,.channelCreated 0] ++ leakingRound 0

theorem echoed_failure_leaves_two : ∃ final,
    Machine.run (AmqpState.step OutboxRelayService.amqp) .initial echoedFailure = some final ∧
    final.openConnections = 2 ∧ Machine.tally (AmqpState.step OutboxRelayService.amqp) echoes .initial echoedFailure = 1 ∧
    final.load + Machine.tally (AmqpState.step OutboxRelayService.amqp) lapses .initial echoedFailure =
      1 + Machine.tally (AmqpState.step OutboxRelayService.amqp) echoes .initial echoedFailure := by
  let ran := Machine.run (AmqpState.step OutboxRelayService.amqp) .initial echoedFailure
  let final := ran.get (by decide)
  have same : ran = some final := (Option.some_get _).symm
  exact ⟨final,same,by decide,by decide,((connections_balanced OutboxRelayService.amqp).1 echoedFailure final same).1⟩

end MessagingPlatform.Broker

import MessagingPlatform.Lib.Machine
import MessagingPlatform.Contracts.Topology

/-! The start of the messaging service: `TopologyService` and the RMQ transport declare what they
need on one broker, in any order. A declaration that fails closes the channel, and its party
stops. A start can be cut short, and the next one finds what the broker has kept. -/
namespace MessagingPlatform.Broker
open Amqp

inductive Party where
  | topologyService
  | transport
deriving DecidableEq

def queueOptions : QueueArguments := {}

def Party.declarations : Party → List Declaration
  | .topologyService => assertTopologySteps
  | .transport => [.queue Queues.work queueOptions]

def Party.workArguments : Party → QueueArguments
  | .topologyService => { deadLetterExchange := some Exchanges.dlx }
  | .transport => queueOptions

structure Startup where
  broker : Topology
  remaining : Party → List Declaration
  failed : Party → Bool

inductive Move where
  | declare (party : Party)
  | restart

namespace Startup

def fresh (broker : Topology) : Startup := ⟨broker,Party.declarations,fun _ => false⟩

def step (startup : Startup) : Move → Option Startup
  | .declare party =>
      match startup.remaining party with
      | [] => none
      | declaration :: rest =>
          match startup.broker.declare declaration with
          | some broker => some { startup with
              broker, remaining := Function.update startup.remaining party rest }
          | none => some { startup with
              remaining := Function.update startup.remaining party []
              failed := Function.update startup.failed party true }
  | .restart => some (fresh startup.broker)

def Finished (startup : Startup) : Prop := ∀ party, startup.remaining party = []

structure Confluent (startup : Startup) : Prop where
  succeeded : ∀ party, startup.failed party = false
  deadLetters : ∃ arguments, startup.broker.queues.lookup Queues.work = some arguments ∧
    arguments.deadLetterExchange = some Exchanges.dlx

/-- Of a party that has not failed: its declaration of the work queue is still to come, or the
queue has the arguments that it named. -/
def Declared (startup : Startup) : Prop := ∀ party, startup.failed party = false →
  .queue Queues.work party.workArguments ∈ startup.remaining party ∨
    startup.broker.queues.lookup Queues.work = some party.workArguments

theorem fresh_declared (broker : Topology) : Declared (fresh broker) := by
  intro party _
  refine .inl ?_
  change .queue Queues.work party.workArguments ∈ party.declarations
  cases party <;> decide

theorem Declared.step {startup after : Startup} {move : Move} (declared : startup.Declared)
    (taken : startup.step move = some after) : after.Declared := by
  cases move with
  | restart =>
    obtain rfl := Option.some.inj taken
    exact fresh_declared _
  | declare party =>
    unfold Startup.step at taken
    dsimp only at taken
    split at taken
    next => cases taken
    next declaration rest remaining =>
      split at taken
      next broker succeeds =>
        obtain rfl := Option.some.inj taken
        intro other running
        rcases declared other running with coming | found
        · by_cases same : other = party
          · subst same
            rw [remaining] at coming
            rcases List.mem_cons.mp coming with now | later
            · subst now
              exact .inr (Topology.declared_queue succeeds)
            · refine .inl ?_
              simpa using later
          · refine .inl ?_
            simpa [Function.update_of_ne same] using coming
        · exact .inr (Topology.declare_queues succeeds found)
      next =>
        obtain rfl := Option.some.inj taken
        intro other running
        by_cases same : other = party
        · subst same
          simp at running
        · have before : startup.failed other = false := by
            simpa [Function.update_of_ne same] using running
          simpa [Function.update_of_ne same] using declared other before

theorem Declared.run {broker : Topology} {startup : Startup}
    (reached : Machine.Reaches Startup.step (fun _ _ => True) (fresh broker) startup) : startup.Declared := by
  refine reached.invariant (fresh_declared broker) ?_
  intro startup move after declared _ taken
  exact declared.step taken

end Startup

/-- Whatever earlier starts have left on the broker, and in whatever order the two parties declare,
no start succeeds with a work queue that dead-letters. -/
theorem startup_not_confluent (broker : Topology) {startup : Startup}
    (reached : Machine.Reaches Startup.step (fun _ _ => True) (Startup.fresh broker) startup)
    (finished : startup.Finished) : ¬ startup.Confluent := by
  intro confluent
  have declared := Startup.Declared.run reached
  have asserted : ∀ party, startup.broker.queues.lookup Queues.work = some (Party.workArguments party) := by
    intro party
    rcases declared party (confluent.succeeded party) with coming | found
    · rw [finished party] at coming
      cases coming
    · exact found
  have same : Party.topologyService.workArguments = Party.transport.workArguments :=
    Option.some.inj ((asserted .topologyService).symm.trans (asserted .transport))
  exact absurd same (by decide)

/-- The start that the call site describes: the topology first, and then the transport. -/
def describedOrder : List Move :=
  assertTopologySteps.map (fun _ => .declare .topologyService) ++ [.declare .transport]

def sampleStartup : Option Startup :=
  Machine.run Startup.step (Startup.fresh Topology.empty) describedOrder

theorem described_order_finished : ∃ startup, sampleStartup = some startup ∧ startup.Finished ∧
    ¬ startup.Confluent := by
  let startup := sampleStartup.get (by decide)
  have ran : sampleStartup = some startup := (Option.some_get _).symm
  have reached : Machine.Reaches Startup.step (fun _ _ => True) (Startup.fresh Topology.empty) startup :=
    Machine.run_reaches ran (by decide)
  have finished : startup.Finished := by
    intro party
    cases party <;> decide
  exact ⟨startup,ran,finished,startup_not_confluent Topology.empty reached finished⟩

/-- On a broker without any queues the transport fails, because the topology came first. -/
theorem described_order_fails : ¬ ∀ (broker : Topology) (startup : Startup),
    Machine.Reaches Startup.step (fun _ _ => True) (Startup.fresh broker) startup → startup.Finished →
    startup.Confluent := by
  intro confluent
  let startup := sampleStartup.get (by decide)
  have reached : Machine.Reaches Startup.step (fun _ _ => True) (Startup.fresh Topology.empty) startup :=
    Machine.run_reaches (Option.some_get _).symm (by decide)
  have finished : startup.Finished := by
    intro party
    cases party <;> decide
  exact absurd ((confluent Topology.empty startup reached finished).succeeded .transport) (by decide)

end MessagingPlatform.Broker

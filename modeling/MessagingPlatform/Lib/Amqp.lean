import Mathlib.Data.List.Basic

/-! The part of an AMQP broker that decides where a message goes: exchanges, queues with
their dead-letter arguments, and bindings. Declarations are idempotent and reject a second
declaration with other arguments. -/
namespace Amqp

inductive ExchangeType where
  | direct
  | fanout
deriving DecidableEq

structure QueueArguments where
  deadLetterExchange : Option String := none
  deadLetterRoutingKey : Option String := none
  queueType : Option String := none
deriving DecidableEq

structure Binding where
  queue : String
  exchange : String
  routingKey : String
deriving DecidableEq

structure Topology where
  exchanges : List (String × ExchangeType)
  queues : List (String × QueueArguments)
  bindings : List Binding
deriving DecidableEq

inductive Declaration where
  | exchange (name : String) (type : ExchangeType)
  | queue (name : String) (arguments : QueueArguments)
  | binding (binding : Binding)
deriving DecidableEq

namespace Topology

def empty : Topology := ⟨[],[],[]⟩

/-- One declaration; `none` closes the channel (PRECONDITION_FAILED or NOT_FOUND). -/
def declare (topology : Topology) : Declaration → Option Topology
  | .exchange name type =>
      match topology.exchanges.lookup name with
      | none => some { topology with exchanges := topology.exchanges ++ [(name,type)] }
      | some declared => if declared = type then some topology else none
  | .queue name arguments =>
      match topology.queues.lookup name with
      | none => some { topology with queues := topology.queues ++ [(name,arguments)] }
      | some declared => if declared = arguments then some topology else none
  | .binding binding =>
      if (topology.queues.lookup binding.queue).isSome &&
          (topology.exchanges.lookup binding.exchange).isSome then
        if binding ∈ topology.bindings then some topology
        else some { topology with bindings := topology.bindings ++ [binding] }
      else none

def matchesKey : ExchangeType → String → Binding → Bool
  | .direct, key, binding => binding.routingKey == key
  | .fanout, _, _ => true

/-- The queues a publish reaches; `none` when the exchange does not exist. -/
def route (topology : Topology) (exchange key : String) : Option (List String) :=
  (topology.exchanges.lookup exchange).map (fun type =>
    (topology.bindings.filter (fun binding =>
      binding.exchange == exchange && matchesKey type key binding)).map Binding.queue)

/-- The queues that a message of `queue` goes to when it is rejected or expires, and its new
routing key. Without a dead-letter exchange it is gone. -/
def deadLetter (topology : Topology) (queue key : String) : List String × String :=
  match topology.queues.lookup queue with
  | some { deadLetterExchange := some exchange, deadLetterRoutingKey := newKey, .. } =>
      let key := newKey.getD key
      ((topology.route exchange key).getD [],key)
  | _ => ([],key)

theorem lookup_append_some {A : Type} {entries : List (String × A)} {name : String} {value : A}
    {entry : String × A} (found : entries.lookup name = some value) :
    (entries ++ [entry]).lookup name = some value := by
  rw [List.lookup_append,found]
  rfl

theorem declare_queues {topology after : Topology} {declaration : Declaration}
    (declared : topology.declare declaration = some after) {name : String} {arguments : QueueArguments}
    (existing : topology.queues.lookup name = some arguments) :
    after.queues.lookup name = some arguments := by
  cases declaration with
  | exchange other type =>
    simp only [declare] at declared
    split at declared
    · obtain rfl := Option.some.inj declared; exact existing
    · split at declared
      · obtain rfl := Option.some.inj declared; exact existing
      · cases declared
  | queue other newArguments =>
    simp only [declare] at declared
    split at declared
    · obtain rfl := Option.some.inj declared; exact lookup_append_some existing
    · split at declared
      · obtain rfl := Option.some.inj declared; exact existing
      · cases declared
  | binding added =>
    simp only [declare] at declared
    split at declared
    · split at declared <;> obtain rfl := Option.some.inj declared <;> exact existing
    · cases declared

/-- A declaration that succeeds leaves the queue with the arguments that it names. -/
theorem declared_queue {topology after : Topology} {name : String} {arguments : QueueArguments}
    (declared : topology.declare (.queue name arguments) = some after) :
    after.queues.lookup name = some arguments := by
  simp only [declare] at declared
  split at declared
  next absent =>
    obtain rfl := Option.some.inj declared
    rw [List.lookup_append,absent]
    simp
  next existing found =>
    split at declared
    next same =>
      obtain rfl := Option.some.inj declared
      rw [found,same]
    next => cases declared

theorem mem_route {topology : Topology} {exchange key queue : String} {type : ExchangeType}
    {reached : List String} {binding : Binding}
    (existing : topology.exchanges.lookup exchange = some type)
    (routed : topology.route exchange key = some reached) (bound : binding ∈ topology.bindings)
    (here : binding.exchange = exchange) (selected : matchesKey type key binding = true)
    (target : binding.queue = queue) : queue ∈ reached := by
  rw [route,existing] at routed
  obtain rfl := Option.some.inj routed
  rw [← target]
  exact List.mem_map_of_mem (List.mem_filter.mpr ⟨bound,by simp [here,selected]⟩)

/-- No two bindings of the topology select the same message. -/
def Exclusive (topology : Topology) : Prop :=
  topology.bindings.Pairwise (fun left right => left.exchange = right.exchange →
    topology.exchanges.lookup left.exchange = some .direct ∧ left.routingKey ≠ right.routingKey)

instance (topology : Topology) : Decidable topology.Exclusive :=
  inferInstanceAs (Decidable (List.Pairwise _ _))

theorem Exclusive.route_length {topology : Topology} (exclusive : topology.Exclusive)
    {exchange key : String} {queues : List String} (routed : topology.route exchange key = some queues) :
    queues.length ≤ 1 := by
  obtain ⟨type,existing,rfl⟩ := Option.map_eq_some_iff.mp routed
  rw [List.length_map]
  have apart := List.Pairwise.filter
    (fun binding => binding.exchange == exchange && matchesKey type key binding) exclusive
  cases selected : topology.bindings.filter
      (fun binding => binding.exchange == exchange && matchesKey type key binding) with
  | nil => exact Nat.zero_le 1
  | cons first rest =>
    cases rest with
    | nil => exact Nat.le_refl 1
    | cons second others =>
      have here : ∀ binding ∈ first :: second :: others,
          binding.exchange = exchange ∧ matchesKey type key binding = true := by
        intro binding member
        rw [← selected] at member
        simpa using (List.mem_filter.mp member).2
      obtain ⟨firstExchange,firstKey⟩ := here first (by simp)
      obtain ⟨secondExchange,secondKey⟩ := here second (by simp)
      rw [selected] at apart
      obtain ⟨direct,differ⟩ := (List.pairwise_cons.mp apart).1 second (by simp)
        (firstExchange.trans secondExchange.symm)
      rw [firstExchange,existing] at direct
      obtain rfl := Option.some.inj direct
      have same : first.routingKey = second.routingKey := by
        rw [beq_iff_eq.mp firstKey,beq_iff_eq.mp secondKey]
      exact absurd same differ

theorem Exclusive.deadLetter_length {topology : Topology} (exclusive : topology.Exclusive)
    (queue key : String) : (topology.deadLetter queue key).1.length ≤ 1 := by
  unfold deadLetter
  split
  next exchange newKey _ _ =>
    cases routed : topology.route exchange (newKey.getD key) with
    | none => simp [routed]
    | some queues => simpa [routed] using exclusive.route_length routed
  next => exact Nat.zero_le 1

end Topology

end Amqp

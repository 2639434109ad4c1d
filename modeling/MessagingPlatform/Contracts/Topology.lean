import Mathlib.Algebra.Field.Rat
import Mathlib.Tactic.Ring
import MessagingPlatform.Lib.Amqp
import MessagingPlatform.Lib.Js

/-! Exchange, queue and routing-key names, the retry policy and the routing of outbox rows,
as both applications share them, and the declarations of the messaging service. -/
namespace MessagingPlatform
open Amqp

namespace Exchanges

def main : String := "messaging.direct"
def dlx : String := "messaging.dlx"
def dlq : String := "messaging.dlq.exchange"
def events : String := "messaging.events"

end Exchanges

namespace Queues

def work : String := "messaging.work"
def retry : String := "messaging.retry.q"
def dlq : String := "messaging.dlq"
def eventsAudit : String := "messaging.events.audit"

end Queues

namespace RoutingKeys

def work : String := "messaging.work"
def retry : String := "messaging.retry"
def dead : String := "messaging.dead"

end RoutingKeys

namespace RetryConfig

def maxAttempts : Int := 5
def baseDelayMs : ℚ := 2000
def maxDelayMs : ℚ := 30000

end RetryConfig

def retryDelayMs (engine : Engine) (attempt : JsNumber) : JsNumber :=
  ((engine.powTwo (attempt.add (.finite (-1)))).scale RetryConfig.baseDelayMs).min
    (.finite RetryConfig.maxDelayMs)

def commandEventTypes : List String := ["CreateMessageEvent.v1","CreateMessageEvent.v2"]

inductive RouteKind where
  | command
  | domainEvent
deriving DecidableEq

structure OutboxRoute where
  exchange : String
  routingKey : String
  kind : RouteKind
deriving DecidableEq

def resolveOutboxRoute (eventType : String) : OutboxRoute :=
  if eventType ∈ commandEventTypes then ⟨Exchanges.main,RoutingKeys.work,.command⟩
  else ⟨Exchanges.events,"",.domainEvent⟩

def RouteKind.queue : RouteKind → String
  | .command => Queues.work
  | .domainEvent => Queues.eventsAudit

inductive FailureOutcome where
  | retry (nextRetryAt : Option Int) (newAttempts : Int)
  | deadLetter (newAttempts : Int)
deriving DecidableEq

namespace FailureOutcome

def newAttempts : FailureOutcome → Int
  | .retry _ attempts | .deadLetter attempts => attempts

end FailureOutcome

/-- `attempts` and `max_attempts` are integer columns; an instant is a count of milliseconds. -/
def computeFailureOutcome (engine : Engine) (attemptsBefore maxAttempts now : Int) :
    FailureOutcome :=
  let newAttempts := attemptsBefore + 1
  if newAttempts ≥ maxAttempts then .deadLetter newAttempts
  else .retry (addMs now (retryDelayMs engine (.finite newAttempts))) newAttempts

section outcome
variable {engine : Engine} {attempts maxAttempts now : Int}

theorem computeFailureOutcome_spent (spent : attempts + 1 ≥ maxAttempts) :
    computeFailureOutcome engine attempts maxAttempts now = .deadLetter (attempts + 1) := if_pos spent

theorem computeFailureOutcome_left (left : ¬ attempts + 1 ≥ maxAttempts) :
    computeFailureOutcome engine attempts maxAttempts now =
      .retry (addMs now (retryDelayMs engine (.finite (attempts + 1 : Int)))) (attempts + 1) := if_neg left

theorem computeFailureOutcome_newAttempts :
    (computeFailureOutcome engine attempts maxAttempts now).newAttempts = attempts + 1 := by
  by_cases spent : attempts + 1 ≥ maxAttempts
  · rw [computeFailureOutcome_spent spent]
    rfl
  · rw [computeFailureOutcome_left spent]
    rfl

end outcome

/-- The delay of a whole number of attempts is a number of milliseconds up to the cap. -/
theorem retryDelayMs_int (engine : Engine) (attempt : Int) :
    ∃ delay ≤ RetryConfig.maxDelayMs, retryDelayMs engine (.finite attempt) = .finite delay := by
  have exact : ((attempt : ℚ) + -1) = ((attempt - 1 : Int) : ℚ) := by push_cast; ring
  have zero : Binary64.Representable 0 := ⟨0,0,by decide,by decide,by simp⟩
  have power : (engine.powTwo ((JsNumber.finite attempt).add (.finite (-1)))).AtLeast 0 := by
    rw [JsNumber.add,exact]
    obtain ⟨m,whole⟩ | overflow := JsNumber.rounded_whole (attempt - 1)
    · rw [whole,Engine.powTwo_intCast]
      exact JsNumber.rounded_atLeast zero (le_refl 0) (zpow_pos two_pos m).le
    · rw [overflow]
      cases decide (((attempt - 1 : Int) : ℚ) < 0) with
      | true => exact le_refl 0
      | false => rfl
  have scaled := @JsNumber.AtLeast.scale 0 RetryConfig.baseDelayMs _ power (by rw [mul_zero]; exact zero) (by decide)
    (le_refl 0)
  rw [mul_zero] at scaled
  exact scaled.min_finite

theorem computeFailureOutcome_date {engine : Engine} {attempts maxAttempts now newAttempts : Int}
    {nextRetryAt : Option Int}
    (retries : computeFailureOutcome engine attempts maxAttempts now = .retry nextRetryAt newAttempts) :
    ∃ instant, nextRetryAt = some instant := by
  unfold computeFailureOutcome at retries
  dsimp only at retries
  split at retries
  next => cases retries
  next =>
    obtain ⟨rfl,_⟩ := FailureOutcome.retry.inj retries
    obtain ⟨delay,_,finite⟩ := retryDelayMs_int engine (attempts + 1)
    rw [finite]
    exact ⟨_,rfl⟩

/-- The declarations of `TopologyService.assertTopology` in their order. -/
def assertTopologySteps : List Declaration := [
  .exchange Exchanges.dlx .fanout,
  .exchange Exchanges.dlq .direct,
  .exchange Exchanges.main .direct,
  .queue Queues.dlq { queueType := some "classic" },
  .binding ⟨Queues.dlq,Exchanges.dlq,RoutingKeys.dead⟩,
  .queue Queues.retry
    { deadLetterExchange := some Exchanges.main, deadLetterRoutingKey := some RoutingKeys.work },
  .binding ⟨Queues.retry,Exchanges.main,RoutingKeys.retry⟩,
  .queue Queues.work { deadLetterExchange := some Exchanges.dlx },
  .binding ⟨Queues.work,Exchanges.main,RoutingKeys.work⟩,
  .binding ⟨Queues.dlq,Exchanges.dlx,""⟩,
  .exchange Exchanges.events .fanout,
  .queue Queues.eventsAudit {},
  .binding ⟨Queues.eventsAudit,Exchanges.events,""⟩]

def declaredPrefix (count : Nat) : Topology :=
  ((assertTopologySteps.take count).foldlM Topology.declare Topology.empty).getD Topology.empty

def declaredTopology : Topology := declaredPrefix assertTopologySteps.length

end MessagingPlatform

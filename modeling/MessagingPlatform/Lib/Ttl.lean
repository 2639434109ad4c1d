import Mathlib.Data.List.Induction
import MessagingPlatform.Lib.Machine

/-! Queues whose messages have a time to live and expire at the head only. A message behind one that
expires later waits for it, so the time at which a message leaves is the last deadline of the
messages up to it. -/
namespace Ttl

variable {Item : Type}

structure Held (Item : Type) where
  item : Item
  arrival : Nat
  ttl : Nat

def Held.deadline (held : Held Item) : Nat := held.arrival + held.ttl

/-- The messages that have left are listed in their order, with the times at which they left. -/
structure Queue (Item : Type) where
  now : Nat
  waiting : List (Held Item)
  left : List (Held Item × Nat)

inductive Event (Item : Type) where
  | enqueue (item : Item) (ttl : Nat)
  | elapse (ms : Nat)
  | expire

namespace Queue

/-- The head leaves when its time is up, so no time passes beyond its deadline while it is there. -/
def step (queue : Queue Item) : Event Item → Option (Queue Item)
  | .enqueue item ttl => some { queue with waiting := queue.waiting ++ [⟨item,queue.now,ttl⟩] }
  | .elapse ms =>
      if queue.waiting.head?.all (fun head => decide (queue.now + ms ≤ head.deadline)) then
        some { queue with now := queue.now + ms }
      else none
  | .expire =>
      match queue.waiting with
      | [] => none
      | head :: rest =>
          if head.deadline ≤ queue.now then some ⟨queue.now,rest,queue.left ++ [(head,queue.now)]⟩ else none

def empty (now : Nat) : Queue Item := ⟨now,[],[]⟩

def messages (queue : Queue Item) : List (Held Item) := queue.left.map Prod.fst ++ queue.waiting

theorem step_messages {queue after : Queue Item} {event : Event Item} (taken : queue.step event = some after) :
    after.messages = queue.messages ∨
      ∃ item ttl, event = .enqueue item ttl ∧ after.messages = queue.messages ++ [⟨item,queue.now,ttl⟩] := by
  cases event with
  | enqueue item ttl =>
    obtain rfl := Option.some.inj taken
    exact .inr ⟨item,ttl,rfl,by simp [messages]⟩
  | elapse ms =>
    simp only [step,Option.ite_none_right_eq_some,Option.some.injEq] at taken
    obtain ⟨_,rfl⟩ := taken
    exact .inl rfl
  | expire =>
    unfold step at taken
    cases waiting : queue.waiting with
    | nil => simp [waiting] at taken
    | cons head rest =>
      simp only [waiting,Option.ite_none_right_eq_some,Option.some.injEq] at taken
      obtain ⟨_,rfl⟩ := taken
      left
      simp [messages,waiting]

end Queue

def lastDeadline (messages : List (Held Item)) : Nat := messages.foldl (fun last held => max last held.deadline) 0

theorem lastDeadline_append (messages : List (Held Item)) (held : Held Item) :
    lastDeadline (messages ++ [held]) = max (lastDeadline messages) held.deadline := by
  simp [lastDeadline]

theorem lastDeadline_le {messages : List (Held Item)} {bound : Nat} :
    lastDeadline messages ≤ bound ↔ ∀ held ∈ messages, held.deadline ≤ bound := by
  induction messages using List.reverseRecOn with
  | nil => simp [lastDeadline]
  | append_singleton earlier held ih =>
    rw [lastDeadline_append,Nat.max_le,ih]
    constructor
    · intro bounds other member
      rcases List.mem_append.mp member with before | here
      · exact bounds.1 other before
      · exact List.mem_singleton.mp here ▸ bounds.2
    · intro bounds
      exact ⟨fun other member => bounds other (List.mem_append_left _ member),bounds held (by simp)⟩

/-- Messages leave at the last deadline up to them, and no time has passed beyond that of the head. -/
structure Orderly (queue : Queue Item) : Prop where
  elapsed : lastDeadline (queue.left.map Prod.fst) ≤ queue.now
  urgent : ∀ head rest, queue.waiting = head :: rest →
    queue.now ≤ max (lastDeadline (queue.left.map Prod.fst)) head.deadline
  departed : ∀ earlier held departure later, queue.left = earlier ++ (held,departure) :: later →
    departure = max (lastDeadline (earlier.map Prod.fst)) held.deadline

theorem Orderly.empty (now : Nat) : Orderly (Queue.empty now : Queue Item) where
  elapsed := Nat.zero_le now
  urgent _ _ impossible := by cases impossible
  departed earlier _ _ _ impossible := by cases earlier <;> cases impossible

theorem Orderly.enqueue {queue after : Queue Item} (orderly : Orderly queue) {item : Item} {ttl : Nat}
    (taken : queue.step (.enqueue item ttl) = some after) : Orderly after := by
  obtain rfl := Option.some.inj taken
  refine ⟨orderly.elapsed,?_,orderly.departed⟩
  intro head rest same
  cases waiting : queue.waiting with
  | nil =>
    simp only [waiting,List.nil_append,List.cons.injEq] at same
    obtain ⟨rfl,_⟩ := same
    simp only [Held.deadline]
    omega
  | cons first others =>
    simp only [waiting,List.cons_append,List.cons.injEq] at same
    obtain ⟨rfl,_⟩ := same
    exact orderly.urgent first others waiting

theorem Orderly.elapse {queue after : Queue Item} (orderly : Orderly queue) {ms : Nat}
    (taken : queue.step (.elapse ms) = some after) : Orderly after := by
  simp only [Queue.step,Option.ite_none_right_eq_some,Option.some.injEq] at taken
  obtain ⟨patient,rfl⟩ := taken
  have elapsed := orderly.elapsed
  refine ⟨by dsimp only; omega,?_,orderly.departed⟩
  intro head rest same
  have waiting : queue.waiting = head :: rest := same
  simp only [waiting,List.head?_cons,Option.all_some,decide_eq_true_eq] at patient
  dsimp only
  omega

theorem Orderly.expire {queue after : Queue Item} (orderly : Orderly queue)
    (taken : queue.step .expire = some after) : Orderly after := by
  unfold Queue.step at taken
  cases waiting : queue.waiting with
  | nil => simp [waiting] at taken
  | cons head rest =>
    simp only [waiting,Option.ite_none_right_eq_some,Option.some.injEq] at taken
    obtain ⟨expired,rfl⟩ := taken
    have elapsed := orderly.elapsed
    have urgent := orderly.urgent head rest waiting
    have last : lastDeadline ((queue.left ++ [(head,queue.now)]).map Prod.fst) =
        max (lastDeadline (queue.left.map Prod.fst)) head.deadline := by
      rw [List.map_append]
      exact lastDeadline_append _ head
    refine ⟨?_,?_,?_⟩
    · dsimp only
      rw [last]
      omega
    · intro next others same
      dsimp only
      rw [last]
      omega
    · intro earlier held departure later same
      rcases List.eq_nil_or_concat later with rfl | ⟨front,final,rfl⟩
      · obtain ⟨sameEarlier,sameLast⟩ := List.append_inj' same rfl
        obtain ⟨rfl,rfl⟩ := Prod.mk.inj (List.singleton_inj.mp sameLast)
        subst sameEarlier
        omega
      · have split : queue.left ++ [(head,queue.now)] = (earlier ++ (held,departure) :: front) ++ [final] :=
          same.trans (by simp)
        exact orderly.departed earlier held departure front (List.append_inj' split rfl).1

theorem Orderly.step {queue after : Queue Item} (orderly : Orderly queue) {event : Event Item}
    (taken : queue.step event = some after) : Orderly after := by
  cases event with
  | enqueue item ttl => exact orderly.enqueue taken
  | elapse ms => exact orderly.elapse taken
  | expire => exact orderly.expire taken

/-- A message leaves no earlier than its deadline, and at its deadline if and only if no message in
front of it had a later one. -/
theorem Orderly.punctual_iff {queue : Queue Item} (orderly : Orderly queue) {earlier later : List (Held Item × Nat)}
    {held : Held Item} {departure : Nat} (left : queue.left = earlier ++ (held,departure) :: later) :
    held.deadline ≤ departure ∧
    (departure = held.deadline ↔ ∀ other ∈ earlier, other.1.deadline ≤ held.deadline) := by
  have law := orderly.departed earlier held departure later left
  have bound : lastDeadline (earlier.map Prod.fst) ≤ held.deadline ↔
      ∀ other ∈ earlier, other.1.deadline ≤ held.deadline := by
    rw [lastDeadline_le]
    simp only [List.mem_map,forall_exists_index,and_imp,forall_apply_eq_imp_iff₂]
  refine ⟨by omega,?_⟩
  rw [← bound]
  omega

/-- A message that has not left is not overdue, unless one in front of it had a later deadline. -/
theorem Orderly.not_overdue {queue : Queue Item} (orderly : Orderly queue) {ahead behind : List (Held Item)}
    {held : Held Item} (waiting : queue.waiting = ahead ++ held :: behind)
    (sooner : ∀ other ∈ queue.left.map Prod.fst ++ ahead, other.deadline ≤ held.deadline) :
    queue.now ≤ held.deadline := by
  have past : lastDeadline (queue.left.map Prod.fst) ≤ held.deadline :=
    lastDeadline_le.mpr (fun other member => sooner other (List.mem_append_left _ member))
  cases ahead with
  | nil =>
    have urgent := orderly.urgent held behind waiting
    omega
  | cons head rest =>
    have urgent := orderly.urgent head (rest ++ held :: behind) waiting
    have front := sooner head (List.mem_append_right _ List.mem_cons_self)
    omega

end Ttl

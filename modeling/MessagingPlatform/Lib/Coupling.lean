import Mathlib.Data.List.Forall2
import Mathlib.Data.List.Perm.Basic
import MessagingPlatform.Lib.Machine

/-! Two machines, the first of which feeds the second. A step of the feeder yields some items, and the taker
takes each of them in the same step, in a move of which the environment chooses the rest. Nothing else is fed
to it. -/

structure Coupling (Left Act Right Move Item Choice : Type) where
  feeder : Left → Act → Option Left
  taker : Right → Move → Option Right
  /-- What a step of the feeder from one state to the other yields. -/
  yields : Left → Left → List Item
  feed : Item → Choice → Move
  feeds : Move → Bool

namespace Coupling

inductive Action (Act Move Choice : Type) where
  | feeder (act : Act) (choices : List Choice)
  | taker (move : Move)

variable {Left Act Right Move Item Choice Taken : Type} (C : Coupling Left Act Right Move Item Choice)

def step (pair : Left × Right) : Action Act Move Choice → Option (Left × Right)
  | .feeder act choices => (C.feeder pair.1 act).bind (fun after =>
      let items := C.yields pair.1 after
      if items.length = choices.length then
        (Machine.run C.taker pair.2 (List.zipWith C.feed items choices)).map (fun taken => (after,taken))
      else none)
  | .taker move => if C.feeds move then none else (C.taker pair.2 move).map (fun taken => (pair.1,taken))

variable {C} {pair after : Left × Right}

theorem step_feeder {act : Act} {choices : List Choice} (taken : C.step pair (.feeder act choices) = some after) :
    C.feeder pair.1 act = some after.1 ∧ (C.yields pair.1 after.1).length = choices.length ∧
      Machine.run C.taker pair.2 (List.zipWith C.feed (C.yields pair.1 after.1) choices) = some after.2 := by
  obtain ⟨left,moved,rest⟩ := Option.bind_eq_some_iff.mp taken
  dsimp only at rest
  split at rest
  next matched =>
    obtain ⟨right,ran,rfl⟩ := Option.map_eq_some_iff.mp rest
    exact ⟨moved,matched,ran⟩
  next => cases rest

theorem step_of_run {act : Act} {choices : List Choice} {left : Left} {right : Right}
    (moved : C.feeder pair.1 act = some left) (matched : (C.yields pair.1 left).length = choices.length)
    (ran : Machine.run C.taker pair.2 (List.zipWith C.feed (C.yields pair.1 left) choices) = some right) :
    C.step pair (.feeder act choices) = some (left,right) := by
  refine Option.bind_eq_some_iff.mpr ⟨left,moved,?_⟩
  dsimp only
  rw [if_pos matched,ran]
  rfl

theorem step_taker {move : Move} (taken : C.step pair (.taker move) = some after) :
    C.feeds move = false ∧ C.taker pair.2 move = some after.2 ∧ after.1 = pair.1 := by
  unfold step at taken
  dsimp only at taken
  split at taken
  next => cases taken
  next other =>
    obtain ⟨right,moved,rfl⟩ := Option.map_eq_some_iff.mp taken
    exact ⟨Bool.eq_false_iff.mpr other,moved,rfl⟩

variable {permitted : Left × Right → Action Act Move Choice → Prop} {allowed : Left → Act → Prop}
  {tolerated : Right → Move → Prop} {initial : Left × Right}

/-- A run of the pair is a run of the feeder. -/
theorem reaches_feeder (every : ∀ left act, allowed left act)
    (reached : Machine.Reaches C.step permitted initial pair) :
    Machine.Reaches C.feeder allowed initial.1 pair.1 := by
  induction reached with
  | start => exact .start
  | @next state action after _ _ taken ih =>
    cases action with
    | feeder act choices => exact .next ih (every _ _) (step_feeder taken).1
    | taker move => exact (step_taker taken).2.2 ▸ ih

/-- A run of the pair is a run of the taker. -/
theorem reaches_taker (every : ∀ right move, tolerated right move)
    (reached : Machine.Reaches C.step permitted initial pair) :
    Machine.Reaches C.taker tolerated initial.2 pair.2 := by
  induction reached with
  | start => exact .start
  | @next state action after _ _ taken ih =>
    cases action with
    | feeder act choices => exact ih.trans (Machine.run_reaches (step_feeder taken).2.2 (Machine.permitted_every every _ _))
    | taker move => exact .next ih (every _ _) (step_taker taken).2.1

/-- What the feeder has made so far and what the taker has taken so far keep step: each step of the feeder
makes what it yields, and each feeding move, and no other, takes its item. -/
structure Balances (C : Coupling Left Act Right Move Item Choice) (made : Left → List Item)
    (took : Right → List Taken) (related : Item → Taken → Prop) : Prop where
  makes : ∀ left act after, C.feeder left act = some after → (made after).Perm (made left ++ C.yields left after)
  takes : ∀ right item choice after, C.taker right (C.feed item choice) = some after →
    ∃ taken, took after = took right ++ [taken] ∧ related item taken
  keeps : ∀ right move after, C.feeds move = false → C.taker right move = some after → took after = took right

variable {made : Left → List Item} {took : Right → List Taken} {related : Item → Taken → Prop}

theorem Balances.run (balances : C.Balances made took related) {items : List Item} {choices : List Choice}
    {right final : Right} (matched : items.length = choices.length)
    (ran : Machine.run C.taker right (List.zipWith C.feed items choices) = some final) :
    ∃ taken, took final = took right ++ taken ∧ List.Forall₂ related items taken := by
  induction items generalizing right choices with
  | nil =>
    obtain rfl := Option.some.inj ran
    exact ⟨[],(List.append_nil _).symm,.nil⟩
  | cons item items ih =>
    cases choices with
    | nil => cases matched
    | cons choice choices =>
      obtain ⟨next,moved,ran⟩ := Option.bind_eq_some_iff.mp ran
      obtain ⟨first,grown,relates⟩ := balances.takes _ _ _ _ moved
      obtain ⟨others,further,rest⟩ := ih (Nat.succ.inj matched) ran
      refine ⟨first :: others,?_,.cons relates rest⟩
      rw [further,grown,List.append_assoc]
      rfl

/-- All that was made was taken, each item once, and nothing else was. -/
theorem Balances.matched (balances : C.Balances made took related) (nothing : made initial.1 = [])
    (empty : took initial.2 = []) (reached : Machine.Reaches C.step permitted initial pair) :
    ∃ items, items.Perm (made pair.1) ∧ List.Forall₂ related items (took pair.2) := by
  induction reached with
  | start => exact ⟨[],nothing ▸ .nil,empty ▸ .nil⟩
  | @next state action after _ _ taken ih =>
    obtain ⟨items,same,relates⟩ := ih
    cases action with
    | feeder act choices =>
      obtain ⟨moved,length,ran⟩ := step_feeder taken
      obtain ⟨others,grown,more⟩ := balances.run length ran
      refine ⟨items ++ C.yields state.1 after.1,?_,?_⟩
      · exact (same.append_right _).trans (balances.makes _ _ _ moved).symm
      · rw [grown]
        exact List.rel_append relates more
    | taker move =>
      obtain ⟨other,moved,left⟩ := step_taker taken
      refine ⟨items,left ▸ same,?_⟩
      rw [balances.keeps _ _ _ other moved]
      exact relates

end Coupling

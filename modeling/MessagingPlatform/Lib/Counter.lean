import Mathlib.Data.List.Basic
import Mathlib.Tactic.Common

/-! The history of a counter that every use increments and reads in one atomic step, and that may
be set back to zero. Between two resets, only boundedly many uses can have read a value below a
limit, whatever is done with the values afterwards. -/
namespace Counter

inductive Entry (Id : Type) where
  | counted (id : Id) (value : Int)
  | reset

variable {Id : Type}

def Entry.id? : Entry Id → Option Id
  | .counted id _ => some id
  | .reset => none

def value : Int → List (Entry Id) → Int
  | start, [] => start
  | _, .counted _ count :: rest => value count rest
  | _, .reset :: rest => value 0 rest

def Numbered : Int → List (Entry Id) → Prop
  | _, [] => True
  | start, .counted _ count :: rest => count = start + 1 ∧ Numbered count rest
  | _, .reset :: rest => Numbered 0 rest

variable {start limit : Int} {before after entries : List (Entry Id)}

@[simp] theorem numbered_nil : Numbered start ([] : List (Entry Id)) := trivial

@[simp] theorem value_nil : value start ([] : List (Entry Id)) = start := rfl

theorem value_append : value start (before ++ after) = value (value start before) after := by
  induction before generalizing start with
  | nil => rfl
  | cons entry rest ih => cases entry <;> exact ih

theorem numbered_append : Numbered start (before ++ after) ↔
    Numbered start before ∧ Numbered (value start before) after := by
  induction before generalizing start with
  | nil => simp [Numbered,value]
  | cons entry rest ih =>
    cases entry with
    | counted id count => simp [Numbered,value,ih,and_assoc]
    | reset => simp [Numbered,value,ih]

theorem Numbered.value_nonneg (numbered : Numbered start entries) (first : 0 ≤ start) :
    0 ≤ value start entries := by
  induction entries generalizing start with
  | nil => exact first
  | cons entry rest ih =>
    cases entry with
    | counted id count =>
      obtain ⟨next,numbered⟩ := numbered
      apply ih numbered
      omega
    | reset => exact ih numbered (Int.le_refl 0)

/-- The uses that only a value below the limit allows are as many as the limit leaves room for. -/
theorem Numbered.spenders_le (numbered : Numbered start entries) (unreset : Entry.reset ∉ entries)
    {spends : Id → Bool}
    (within : ∀ id count, Entry.counted id count ∈ entries → spends id = true → count < limit) :
    ((entries.filterMap Entry.id?).filter spends).length ≤ (limit - 1 - start).toNat := by
  induction entries generalizing start with
  | nil => simp
  | cons entry rest ih =>
    cases entry with
    | reset => exact absurd List.mem_cons_self unreset
    | counted id count =>
      obtain ⟨next,numbered⟩ := numbered
      have tail := ih numbered (fun member => unreset (List.mem_cons_of_mem _ member))
        (fun other value member => within other value (List.mem_cons_of_mem _ member))
      simp only [List.filterMap_cons,Entry.id?,List.filter_cons]
      split
      next spent =>
        have below := within id count List.mem_cons_self spent
        rw [List.length_cons]
        omega
      next => omega

end Counter

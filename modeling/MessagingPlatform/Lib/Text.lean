import Mathlib.Data.List.TakeWhile
import MessagingPlatform.Lib.Js

/-! Scanning of texts: what trimming leaves, and the run of characters that a text ends with. -/
namespace Text

section lists
variable {A : Type} {p : A → Bool} {items word : List A}

def strip (p : A → Bool) (items : List A) : List A := ((items.dropWhile p).reverse.dropWhile p).reverse

theorem dropWhile_solid (solid : ∀ item ∈ word, ¬ p item) (some : word ≠ []) (rest : List A) :
    (word ++ rest).dropWhile p = word ++ rest := by
  cases word with
  | nil => exact absurd rfl some
  | cons first others => exact List.dropWhile_cons_of_neg (solid first List.mem_cons_self)

theorem strip_eq_iff (solid : ∀ item ∈ word, ¬ p item) (some : word ≠ []) : strip p items = word ↔
    ∃ before after, (∀ item ∈ before, p item) ∧ (∀ item ∈ after, p item) ∧ items = before ++ word ++ after := by
  unfold strip
  constructor
  · intro stripped
    let kept := items.dropWhile p
    refine ⟨items.takeWhile p,(kept.reverse.takeWhile p).reverse,?_,?_,?_⟩
    · intro item member
      exact List.mem_takeWhile_imp member
    · intro item member
      exact List.mem_takeWhile_imp (List.mem_reverse.mp member)
    · have back : kept.reverse.takeWhile p ++ word.reverse = kept.reverse := by
        rw [← stripped,List.reverse_reverse]
        exact List.takeWhile_append_dropWhile
      have front : word ++ (kept.reverse.takeWhile p).reverse = kept := by
        simpa using congrArg List.reverse back
      rw [List.append_assoc,front]
      exact List.takeWhile_append_dropWhile.symm
  · intro split
    obtain ⟨before,after,blankBefore,blankAfter,rfl⟩ := split
    have backwards : ∀ item ∈ after.reverse, p item := fun item member => blankAfter item (List.mem_reverse.mp member)
    have reversed : ∀ item ∈ word.reverse, ¬ p item := fun item member => solid item (List.mem_reverse.mp member)
    rw [List.append_assoc,List.dropWhile_append_of_pos blankBefore,dropWhile_solid solid some,
      List.reverse_append,List.dropWhile_append_of_pos backwards,← List.append_nil word.reverse,
      dropWhile_solid reversed (by simpa using some),List.append_nil,List.reverse_reverse]

/-- A list ends with a word of a kind, behind an item of another kind. -/
theorem run_eq_iff {front : A} (other : ¬ p front) {before : List A} :
    items.reverse.takeWhile p = word.reverse ∧ items.reverse.drop word.length = front :: before.reverse ↔
      (∀ item ∈ word, p item) ∧ items = before ++ front :: word := by
  constructor
  · intro scanned
    obtain ⟨run,rest⟩ := scanned
    constructor
    · intro item member
      exact List.mem_takeWhile_imp (run ▸ List.mem_reverse.mpr member)
    · have length : (items.reverse.takeWhile p).length = word.length := by rw [run,List.length_reverse]
      have taken : items.reverse.take word.length = word.reverse := by
        rw [← length,← List.prefix_iff_eq_take.mp (List.takeWhile_prefix p)]
        exact run
      have whole : items.reverse = word.reverse ++ front :: before.reverse := by
        rw [← taken,← rest,List.take_append_drop]
      simpa using congrArg List.reverse whole
  · intro split
    obtain ⟨kind,rfl⟩ := split
    have backwards : ∀ item ∈ word.reverse, p item := fun item member => kind item (List.mem_reverse.mp member)
    have whole : (before ++ front :: word).reverse = word.reverse ++ front :: before.reverse := by simp
    rw [whole,List.takeWhile_append_of_pos backwards,List.takeWhile_cons_of_neg other,List.append_nil]
    exact ⟨rfl,by simp⟩

end lists

theorem jsTrim_eq_iff {text word : String} (solid : ∀ c ∈ word.toList, ¬ c.isJsSpace) (some : word ≠ "") :
    text.jsTrim = word ↔ ∃ before after : List Char, (∀ c ∈ before, c.isJsSpace) ∧ (∀ c ∈ after, c.isJsSpace) ∧
      text.toList = before ++ word.toList ++ after := by
  have letters : word.toList ≠ [] := by simpa using some
  rw [← strip_eq_iff solid letters]
  unfold String.jsTrim strip
  constructor
  · intro trimmed
    rw [← trimmed,String.toList_ofList]
  · intro stripped
    rw [stripped,String.ofList_toList]

end Text

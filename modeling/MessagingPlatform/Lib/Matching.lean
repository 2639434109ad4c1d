import Mathlib.Data.List.Forall2
import Mathlib.Data.List.Nodup
import Mathlib.Logic.Function.Basic

/-! Matchings of lists. Each entry of a log belongs to one party; when every party can match its own
entries with values of its own, the whole log can be matched. -/
namespace Matching

variable {Party Entry Value Key : Type} [DecidableEq Party] {related : Entry → Value → Prop}

def entriesOf (log : List (Party × Entry)) (party : Party) : List Entry :=
  (log.filter (fun entry => entry.1 = party)).map Prod.snd

theorem entriesOf_concat (log : List (Party × Entry)) (party other : Party) (entry : Entry) :
    entriesOf (log ++ [(party,entry)]) other = entriesOf log other ++ if party = other then [entry] else [] := by
  unfold entriesOf
  rw [List.filter_append,List.map_append]
  by_cases mine : party = other
  · simp [mine]
  · simp [mine]

theorem entriesOf_eq_nil {log : List (Party × Entry)} {party : Party} (absent : ∀ entry ∈ log, entry.1 ≠ party) :
    entriesOf log party = [] := by
  unfold entriesOf
  rw [List.map_eq_nil_iff,List.filter_eq_nil_iff]
  intro entry member
  simpa using absent entry member

theorem forall₂_concat {entries : List Entry} {values : List Value} (matched : List.Forall₂ related entries values)
    {entry : Entry} {value : Value} (last : related entry value) :
    List.Forall₂ related (entries ++ [entry]) (values ++ [value]) := by
  induction matched with
  | nil => exact .cons last .nil
  | cons head _ ih => exact .cons head ih

theorem exists_of_mem {entries : List Entry} {values : List Value} (matched : List.Forall₂ related entries values)
    {entry : Entry} (member : entry ∈ entries) : ∃ value ∈ values, related entry value := by
  induction matched with
  | nil => cases member
  | cons head _ ih =>
    rcases List.mem_cons.mp member with rfl | later
    · exact ⟨_,List.mem_cons_self,head⟩
    · obtain ⟨value,among,same⟩ := ih later
      exact ⟨value,List.mem_cons_of_mem _ among,same⟩

theorem mem_entriesOf {log : List (Party × Entry)} {party : Party} {entry : Entry} :
    entry ∈ entriesOf log party ↔ (party,entry) ∈ log := by
  simp [entriesOf]

/-- What the parties match apart from each other, with no value used twice, is a matching of the log. -/
theorem exists_whole (key : Value → Key) {log : List (Party × Entry)} {parts : Party → List Value}
    (matched : ∀ party, List.Forall₂ related (entriesOf log party) (parts party))
    (distinct : ∀ party, ((parts party).map key).Nodup)
    (apart : ∀ party other, party ≠ other → ∀ value ∈ parts party, ∀ theirs ∈ parts other, key value ≠ key theirs) :
    ∃ whole, List.Forall₂ (fun entry value => related entry.2 value ∧ value ∈ parts entry.1) log whole ∧
      (whole.map key).Nodup := by
  induction log generalizing parts with
  | nil => exact ⟨[],.nil,List.nodup_nil⟩
  | cons entry rest ih =>
    obtain ⟨party,entry⟩ := entry
    -- the first entry takes the first value of its party, and the rest of the log the other values
    have here := matched party
    have first : entriesOf ((party,entry) :: rest) party = entry :: entriesOf rest party := by
      simp [entriesOf]
    rw [first] at here
    generalize mine : parts party = values at here
    cases here with
    | cons head tail =>
      rename_i value values
      have part : ∀ other, other ≠ party → Function.update parts party values other = parts other :=
        fun other away => Function.update_of_ne away _ _
      have within : ∀ other, (Function.update parts party values other).Sublist (parts other) := by
        intro other
        by_cases self : other = party
        · subst self
          rw [Function.update_self,mine]
          exact List.sublist_cons_self _ _
        · rw [part other self]
      have whole := @ih (Function.update parts party values) ?_ ?_ ?_
      · obtain ⟨whole,matched,nodup⟩ := whole
        have own : value ∈ parts party := mine ▸ List.mem_cons_self
        refine ⟨value :: whole,.cons ⟨head,own⟩ (matched.imp ?_),?_⟩
        · intro entry value found
          exact ⟨found.1,(within entry.1).subset found.2⟩
        · rw [List.map_cons,List.nodup_cons]
          refine ⟨?_,nodup⟩
          intro again
          obtain ⟨later,member,same⟩ := List.mem_map.mp again
          obtain ⟨⟨other,_⟩,_,_,theirs⟩ := exists_of_mem matched.flip member
          dsimp only at theirs
          by_cases self : other = party
          · subst self
            rw [Function.update_self] at theirs
            have once := distinct other
            rw [mine,List.map_cons,List.nodup_cons] at once
            exact once.1 (same ▸ List.mem_map_of_mem theirs)
          · rw [part other self] at theirs
            exact apart other party self later theirs value own same
      · intro other
        by_cases self : other = party
        · subst self
          rw [Function.update_self]
          exact tail
        · rw [part other self]
          have theirs := matched other
          rwa [show entriesOf ((party,entry) :: rest) other = entriesOf rest other by
            simp [entriesOf,Ne.symm self]] at theirs
      · intro other
        exact (distinct other).sublist ((within other).map key)
      · intro left right away value one theirs two
        exact apart left right away value ((within left).subset one) theirs ((within right).subset two)

end Matching

import Mathlib.Data.List.Perm.Basic
import Mathlib.Data.List.Nodup
import MessagingPlatform.Lib.Js

/-! JSON values up to the order of the members of their objects. A database column that holds
parsed JSON gives back such a value, and so does a JSON parser. -/
namespace Json

mutual

inductive Reordered : Json → Json → Prop
  | null : Reordered .null .null
  | bool (value : Bool) : Reordered (.bool value) (.bool value)
  | num (value : ℚ) : Reordered (.num value) (.num value)
  | str (value : String) : Reordered (.str value) (.str value)
  | arr {items others : List Json} (same : ItemsReordered items others) :
      Reordered (.arr items) (.arr others)
  | obj {fields kept others : List (String × Json)} (same : FieldsReordered fields kept)
      (moved : kept.Perm others) : Reordered (.obj fields) (.obj others)

inductive ItemsReordered : List Json → List Json → Prop
  | nil : ItemsReordered [] []
  | cons {item other : Json} {rest others : List Json} (head : Reordered item other)
      (tail : ItemsReordered rest others) : ItemsReordered (item :: rest) (other :: others)

inductive FieldsReordered : List (String × Json) → List (String × Json) → Prop
  | nil : FieldsReordered [] []
  | cons {name : String} {value other : Json} {rest others : List (String × Json)}
      (head : Reordered value other) (tail : FieldsReordered rest others) :
      FieldsReordered ((name,value) :: rest) ((name,other) :: others)

end

mutual

theorem Reordered.refl : (value : Json) → Reordered value value
  | .null => .null
  | .bool value => .bool value
  | .num value => .num value
  | .str value => .str value
  | .arr items => .arr (ItemsReordered.refl items)
  | .obj fields => .obj (FieldsReordered.refl fields) (List.Perm.refl fields)

theorem ItemsReordered.refl : (items : List Json) → ItemsReordered items items
  | [] => .nil
  | item :: rest => .cons (Reordered.refl item) (ItemsReordered.refl rest)

theorem FieldsReordered.refl : (fields : List (String × Json)) → FieldsReordered fields fields
  | [] => .nil
  | (_,value) :: rest => .cons (Reordered.refl value) (FieldsReordered.refl rest)

end

namespace FieldsReordered

variable {fields others : List (String × Json)}

theorem keys (same : FieldsReordered fields others) : others.map Prod.fst = fields.map Prod.fst := by
  induction fields generalizing others with
  | nil => cases same; rfl
  | cons field rest ih =>
    cases same with
    | cons head tail => exact congrArg (List.cons _) (ih tail)

theorem mem (same : FieldsReordered fields others) {name : String} {other : Json}
    (member : (name,other) ∈ others) : ∃ value, (name,value) ∈ fields ∧ Reordered value other := by
  induction fields generalizing others with
  | nil => cases same; cases member
  | cons field rest ih =>
    cases same with
    | cons head tail =>
      rcases List.mem_cons.mp member with here | later
      · obtain ⟨rfl,rfl⟩ := Prod.mk.inj here
        exact ⟨_,List.mem_cons_self,head⟩
      · obtain ⟨value,present,moved⟩ := ih tail later
        exact ⟨value,List.mem_cons_of_mem _ present,moved⟩

end FieldsReordered

theorem mem_of_lookup {A : Type} {fields : List (String × A)} {name : String} {value : A}
    (found : fields.lookup name = some value) : (name,value) ∈ fields := by
  obtain ⟨before,after,rfl,_⟩ := List.lookup_eq_some_iff.mp found
  exact List.mem_append_right before List.mem_cons_self

theorem lookup_of_mem {A : Type} {fields : List (String × A)} (distinct : (fields.map Prod.fst).Nodup)
    {name : String} {value : A} (member : (name,value) ∈ fields) : fields.lookup name = some value := by
  induction fields with
  | nil => cases member
  | cons field rest ih =>
    obtain ⟨other,head⟩ := field
    obtain ⟨apart,distinct⟩ := List.nodup_cons.mp distinct
    rcases List.mem_cons.mp member with here | later
    · obtain ⟨rfl,rfl⟩ := Prod.mk.inj here
      simp
    · have differs : name ≠ other := by
        intro same
        exact apart (List.mem_map.mpr ⟨_,later,same⟩)
      rw [List.lookup_cons,beq_false_of_ne differs]
      exact ih distinct later

theorem lookup_iff_mem {A : Type} {fields : List (String × A)} (distinct : (fields.map Prod.fst).Nodup)
    (name : String) (value : A) : fields.lookup name = some value ↔ (name,value) ∈ fields :=
  ⟨mem_of_lookup,lookup_of_mem distinct⟩

theorem lookup_none {A : Type} {fields : List (String × A)} {name : String}
    (absent : name ∉ fields.map Prod.fst) : fields.lookup name = none := by
  cases found : fields.lookup name with
  | none => rfl
  | some value => exact absurd (List.mem_map_of_mem (mem_of_lookup found)) absent

theorem Reordered.lookup {fields : List (String × Json)} {stored : Json}
    (distinct : (fields.map Prod.fst).Nodup) (same : Reordered (.obj fields) stored) :
    ∃ others, stored = .obj others ∧ ∀ name,
      (fields.lookup name = none → others.lookup name = none) ∧
      ∀ value, fields.lookup name = some value →
        ∃ other, others.lookup name = some other ∧ Reordered value other := by
  cases same with
  | @obj _ kept others kept_same moved =>
    have keys : (others.map Prod.fst).Perm (fields.map Prod.fst) :=
      kept_same.keys ▸ (moved.map Prod.fst).symm
    refine ⟨others,rfl,?_⟩
    intro name
    refine ⟨?_,?_⟩
    · intro missing
      refine lookup_none ?_
      intro among
      obtain ⟨⟨_,value⟩,member,rfl⟩ := List.mem_map.mp (keys.mem_iff.mp among)
      exact absurd (missing.symm.trans (lookup_of_mem distinct member)) (by simp)
    · intro value found
      have among : name ∈ others.map Prod.fst :=
        keys.mem_iff.mpr (List.mem_map_of_mem (mem_of_lookup found))
      obtain ⟨⟨_,other⟩,member,rfl⟩ := List.mem_map.mp among
      obtain ⟨original,present,reordered⟩ := kept_same.mem (moved.mem_iff.mpr member)
      have one : original = value :=
        Option.some.inj ((lookup_of_mem distinct present).symm.trans found)
      exact ⟨other,lookup_of_mem (keys.nodup_iff.mpr distinct) member,one ▸ reordered⟩

/-- A member of an object literal is read back by its name. -/
theorem lookup_ofFields {Text : Type} [BEq Text] [LawfulBEq Text] [JsText Text]
    {fields : List (String × Option (Json Text))} (distinct : (fields.map Prod.fst).Nodup)
    {name : String} {value : Option (Json Text)} (member : (name,value) ∈ fields) :
    (fields.filterMap (fun field => field.2.map (fun value => ((JsText.ofString field.1 : Text),value)))).lookup
      (JsText.ofString name) = value := by
  induction fields with
  | nil => cases member
  | cons field rest ih =>
    obtain ⟨other,head⟩ := field
    obtain ⟨apart,later_distinct⟩ := List.nodup_cons.mp distinct
    rcases List.mem_cons.mp member with here | later
    · obtain ⟨rfl,rfl⟩ := Prod.mk.inj here
      cases value with
      | none =>
        rw [List.filterMap_cons_none rfl]
        exact lookup_ofFields_none apart
      | some value => simp
    · have differs : (JsText.ofString name : Text) ≠ JsText.ofString other := by
        intro same
        exact apart (List.mem_map.mpr ⟨_,later,JsText.ofString_inj.mp same⟩)
      cases head with
      | none => simpa using ih later_distinct later
      | some head =>
        have skipped := ih later_distinct later
        simpa [List.lookup_cons,beq_false_of_ne differs] using skipped

theorem distinct_ofFields {fields : List (String × Option Json)} (distinct : (fields.map Prod.fst).Nodup) :
    ((fields.filterMap (fun field => field.2.map (fun value => (field.1,value)))).map Prod.fst).Nodup := by
  refine distinct.sublist ?_
  induction fields with
  | nil => exact .slnil
  | cons field rest ih =>
    obtain ⟨name,value⟩ := field
    have tail := ih (List.nodup_cons.mp distinct).2
    cases value with
    | none => simpa using tail.cons name
    | some value => simpa using tail.cons_cons name

theorem Reordered.text {text : String} {stored : Json} (same : Reordered (.str text) stored) :
    stored = .str text := by
  cases same
  rfl

theorem ItemsReordered.texts {A : Type} {items : List A} {text : A → String} {others : List Json}
    (same : ItemsReordered (items.map (fun item => .str (text item))) others) :
    others = items.map (fun item => .str (text item)) := by
  induction items generalizing others with
  | nil => cases same; rfl
  | cons item rest ih =>
    cases same with
    | cons head tail => rw [head.text,ih tail,List.map_cons]

theorem FieldsReordered.texts {entries : List (String × String)} {others : List (String × Json)}
    (same : FieldsReordered (entries.map (fun entry => (entry.1,.str entry.2))) others) :
    others = entries.map (fun entry => (entry.1,.str entry.2)) := by
  induction entries generalizing others with
  | nil => cases same; rfl
  | cons entry rest ih =>
    cases same with
    | cons head tail => rw [head.text,ih tail,List.map_cons]

theorem Reordered.texts {A : Type} {items : List A} {text : A → String} {stored : Json}
    (same : Reordered (.arr (items.map (fun item => .str (text item)))) stored) :
    stored = .arr (items.map (fun item => .str (text item))) := by
  cases same with
  | arr same => rw [same.texts]

theorem Reordered.record {entries : List (String × String)} {stored : Json}
    (same : Reordered (.obj (entries.map (fun entry => (entry.1,.str entry.2)))) stored) :
    ∃ kept : List (String × String), stored = .obj (kept.map (fun entry => (entry.1,.str entry.2))) ∧ kept.Perm entries := by
  cases same with
  | @obj _ _ others same moved =>
    obtain ⟨kept,rfl,among⟩ : ∃ kept : List (String × String),
        others = kept.map (fun entry => (entry.1,.str entry.2)) ∧ kept.Perm entries := by
      have permuted := same.texts ▸ moved.symm
      exact (congrFun₂ (List.eq_map_comp_perm _) others entries).mpr permuted
    exact ⟨kept,rfl,among⟩

def Read (others : List (String × Json)) (name : String) : Option Json → Prop
  | none => others.lookup name = none
  | some value => ∃ other, others.lookup name = some other ∧ Reordered value other

theorem Read.str {others : List (String × Json)} {name text : String}
    (read : Read others name (some (.str text))) : others.lookup name = some (.str text) := by
  obtain ⟨other,found,same⟩ := read
  rw [found,same.text]

theorem Read.optional {others : List (String × Json)} {name : String} {text : Option String}
    (read : Read others name (text.map .str)) : others.lookup name = text.map .str := by
  cases text with
  | none => exact read
  | some text => exact Read.str read

theorem Reordered.fields {fields : List (String × Option Json)} {stored : Json}
    (distinct : (fields.map Prod.fst).Nodup) (same : Reordered (ofFields fields) stored) :
    ∃ others, stored = .obj others ∧ ∀ name value, (name,value) ∈ fields → Read others name value := by
  obtain ⟨others,rfl,members⟩ := Reordered.lookup (distinct_ofFields distinct) same
  refine ⟨others,rfl,?_⟩
  intro name value member
  have written := lookup_ofFields distinct member
  cases value with
  | none => exact (members name).1 written
  | some value => exact (members name).2 value written

end Json

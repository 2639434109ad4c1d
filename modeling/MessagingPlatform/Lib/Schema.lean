import Mathlib.Data.List.Forall2
import MessagingPlatform.Lib.Js

/-! Schemas over JSON values in the manner of zod: a schema turns an unknown value, `none` for
`undefined`, into a typed one or a list of issues with their paths. Issues of sibling fields
add up. The string formats and the texts of the issues belong to the library that is modelled. -/
namespace Schema

inductive IssueCode where
  | invalidType (expected received : String)
  | tooSmall (origin : String) (minimum : Nat)
  | tooBig (origin : String) (maximum : Nat)
  | invalidFormat (format : String)
  | invalidValue (values : List String)
  | invalidKey (origin : String)
  | custom (message : String)
deriving DecidableEq

structure Issue where
  path : List String
  code : IssueCode
deriving DecidableEq

/-- Checks go on with the value of an invalid result, `none` when one of its issues aborts them. -/
inductive Parsed (A : Type) where
  | valid (value : A)
  | invalid (issues : List Issue) (value : Option A)

namespace Parsed

variable {A B : Type}

protected def map (f : A → B) : Parsed A → Parsed B
  | .valid value => .valid (f value)
  | .invalid issues value => .invalid issues (value.map f)

protected def seq (function : Parsed (A → B)) (argument : Unit → Parsed A) : Parsed B :=
  match function, argument () with
  | .valid f, .valid value => .valid (f value)
  | .valid f, .invalid issues value => .invalid issues (value.map f)
  | .invalid issues f, .valid value => .invalid issues (f.map (fun f => f value))
  | .invalid issues f, .invalid more value => .invalid (issues ++ more) (f.bind (fun f => value.map f))

instance : Applicative Parsed where
  pure := .valid
  map := Parsed.map
  seq := Parsed.seq

def under (segment : String) : Parsed A → Parsed A
  | .valid value => .valid value
  | .invalid issues value =>
      .invalid (issues.map (fun issue => { issue with path := segment :: issue.path })) value

def fail (code : IssueCode) : Parsed A := .invalid [⟨[],code⟩] none

/-- A check, whose own issue aborts no other. -/
def refine (holds : A → Bool) (code : IssueCode) : Parsed A → Parsed A
  | .valid value => if holds value then .valid value else .invalid [⟨[],code⟩] (some value)
  | .invalid issues (some value) =>
      if holds value then .invalid issues (some value) else .invalid (issues ++ [⟨[],code⟩]) (some value)
  | .invalid issues none => .invalid issues none

end Parsed

section schemas
variable {Text : Type}

def typeName : Option (Json Text) → String
  | none => "undefined"
  | some .null => "null"
  | some (.bool _) => "boolean"
  | some (.num _) => "number"
  | some (.str _) => "string"
  | some (.arr _) => "array"
  | some (.obj _) => "object"

def wrongType {A : Type} (expected : String) (raw : Option (Json Text)) : Parsed A :=
  .fail (.invalidType expected (typeName raw))

variable [JsText Text]

def string (minimum maximum : Option Nat) : Option (Json Text) → Parsed Text
  | some (.str text) =>
      let length := JsText.utf16Length text
      let short := (minimum.filter (fun bound => length < bound)).map (fun bound => ⟨[],.tooSmall "string" bound⟩)
      let long := (maximum.filter (fun bound => bound < length)).map (fun bound => ⟨[],.tooBig "string" bound⟩)
      match short.toList ++ long.toList with
      | [] => .valid text
      | issues => .invalid issues (some text)
  | raw => wrongType "string" raw

/-- The formats are of well-formed texts. -/
def formatted (format : String) (accepts : String → Bool) : Option (Json Text) → Parsed String
  | some (.str text) =>
      match (JsText.toString? text).filter accepts with
      | some string => .valid string
      | none => .invalid [⟨[],.invalidFormat format⟩] (JsText.toString? text)
  | raw => wrongType "string" raw

/-- `z.enum` and `z.literal`: one of the named values. -/
def oneOf {A : Type} (values : List (String × A)) (raw : Option (Json Text)) : Parsed A :=
  let found := match raw with
    | some (.str text) => (JsText.toString? text).bind (fun string => values.lookup string)
    | _ => none
  match found with
  | some value => .valid value
  | none => .fail (.invalidValue (values.map Prod.fst))

def optional {A : Type} (schema : Option (Json Text) → Parsed A) : Option (Json Text) → Parsed (Option A)
  | none => .valid none
  | some raw => some <$> schema (some raw)

def withDefault {A : Type} (value : A) (schema : Option (Json Text) → Parsed A) : Option (Json Text) → Parsed A
  | none => .valid value
  | some raw => schema (some raw)

def every {A : Type} (items : List (String × Parsed A)) : Parsed (List A) :=
  items.foldr (fun item rest => List.cons <$> item.2.under item.1 <*> rest) (.valid [])

def array {A : Type} (minimum : Nat) (schema : Option (Json Text) → Parsed A) :
    Option (Json Text) → Parsed (List A)
  | some (.arr items) =>
      (every (items.zipIdx.map (fun item => (toString item.2,schema (some item.1))))).refine
        (fun values => decide (minimum ≤ values.length)) (.tooSmall "array" minimum)
  | raw => wrongType "array" raw

variable [BEq Text]

/-- `z.record`: a key that its schema rejects is reported as such, and its value is not looked at. -/
def record {A : Type} (key : Option (Json Text) → Parsed Text) (schema : Option (Json Text) → Parsed A) :
    Option (Json Text) → Parsed (List (Text × A))
  | some (.obj fields) =>
      every ((fields.filter (fun entry => entry.1 != JsText.ofString "__proto__")).map (fun entry =>
        (JsText.toWellFormed entry.1,match key (some (.str entry.1)) with
          | .valid name => (fun value => (name,value)) <$> schema (some entry.2)
          | .invalid _ _ => .fail (.invalidKey "record"))))
  | raw => wrongType "record" raw

/-- `z.object`: keys outside the shape are stripped. -/
def object {A : Type} (shape : List (Text × Json Text) → Parsed A) : Option (Json Text) → Parsed A
  | some (.obj fields) => shape fields
  | raw => wrongType "object" raw

def field {A : Type} (fields : List (Text × Json Text)) (name : String) (schema : Option (Json Text) → Parsed A) :
    Parsed A :=
  (schema (fields.lookup (JsText.ofString name))).under name

end schemas

/-- What the schema library decides on its own: which strings have a format, and its texts. -/
structure Library where
  uuid : String → Bool
  isoDatetime : String → Bool
  message : IssueCode → String
  /-- The message of the error that `parse` throws. -/
  errorText : List Issue → String

/-! What each schema accepts. -/

section accepted
variable {A B : Type}

@[simp] theorem map_valid {f : A → B} {parsed : Parsed A} {value : B} :
    f <$> parsed = .valid value ↔ ∃ part, parsed = .valid part ∧ f part = value := by
  cases parsed with
  | valid part =>
    change Parsed.valid (f part) = .valid value ↔ _
    simp
  | invalid issues kept =>
    change Parsed.invalid issues (kept.map f) = .valid value ↔ _
    simp

@[simp] theorem seq_valid {function : Parsed (A → B)} {argument : Parsed A} {value : B} :
    function <*> argument = .valid value ↔
      ∃ f part, function = .valid f ∧ argument = .valid part ∧ f part = value := by
  change function.seq (fun _ => argument) = .valid value ↔ _
  cases function <;> cases argument <;> simp [Parsed.seq]

@[simp] theorem under_valid {segment : String} {parsed : Parsed A} {value : A} :
    parsed.under segment = .valid value ↔ parsed = .valid value := by
  cases parsed <;> simp [Parsed.under]

theorem refine_valid {holds : A → Bool} {code : IssueCode} {parsed : Parsed A} {value : A} :
    parsed.refine holds code = .valid value ↔ parsed = .valid value ∧ holds value = true := by
  cases parsed with
  | valid part =>
    by_cases met : holds part = true
    · simp only [Parsed.refine,if_pos met,Parsed.valid.injEq]
      exact ⟨fun same => ⟨same,same ▸ met⟩,fun accepted => accepted.1⟩
    · simp only [Parsed.refine,if_neg met,Parsed.valid.injEq]
      refine ⟨(fun impossible => by cases impossible),?_⟩
      intro accepted
      obtain ⟨rfl,holds⟩ := accepted
      exact absurd holds met
  | invalid issues kept =>
    refine iff_of_false ?_ (fun accepted => by cases accepted.1)
    intro accepted
    cases kept with
    | none => cases accepted
    | some part =>
      dsimp only [Parsed.refine] at accepted
      split_ifs at accepted

variable {Text : Type} {raw : Option (Json Text)}

theorem object_valid {shape : List (Text × Json Text) → Parsed A} {value : A} :
    object shape raw = .valid value ↔ ∃ fields, raw = some (.obj fields) ∧ shape fields = .valid value := by
  unfold object
  split
  next fields => simp
  next other =>
    refine ⟨(fun impossible => by cases impossible),?_⟩
    intro accepted
    obtain ⟨fields,same,_⟩ := accepted
    exact absurd same (other fields)

theorem optional_valid {schema : Option (Json Text) → Parsed A} {value : Option A} :
    optional schema raw = .valid value ↔ (raw = none ∧ value = none) ∨
      ∃ json part, raw = some json ∧ value = some part ∧ schema (some json) = .valid part := by
  cases raw with
  | none => simp [optional,eq_comm]
  | some json =>
    simp only [optional,map_valid,Option.some.injEq,reduceCtorEq,false_and,false_or]
    constructor
    · intro accepted
      obtain ⟨part,parsed,same⟩ := accepted
      exact ⟨json,part,rfl,same.symm,parsed⟩
    · intro accepted
      obtain ⟨other,part,rfl,same,parsed⟩ := accepted
      exact ⟨part,parsed,same.symm⟩

theorem withDefault_valid {default value : A} {schema : Option (Json Text) → Parsed A} :
    withDefault default schema raw = .valid value ↔ (raw = none ∧ value = default) ∨
      ∃ json, raw = some json ∧ schema (some json) = .valid value := by
  cases raw <;> simp [withDefault,eq_comm]

theorem every_valid {items : List (String × Parsed A)} {values : List A} :
    every items = .valid values ↔ List.Forall₂ (fun item value => item.2 = .valid value) items values := by
  induction items generalizing values with
  | nil =>
    cases values with
    | nil => exact iff_of_true rfl .nil
    | cons value rest => exact iff_of_false (fun same => by cases same) (fun all => by cases all)
  | cons item rest ih =>
    change List.cons <$> item.2.under item.1 <*> every rest = .valid values ↔ _
    simp only [seq_valid,map_valid,under_valid]
    constructor
    · intro accepted
      obtain ⟨_,tail,⟨head,parsed,rfl⟩,others,rfl⟩ := accepted
      exact .cons parsed (ih.mp others)
    · intro all
      cases all with
      | cons parsed others => exact ⟨_,_,⟨_,parsed,rfl⟩,ih.mpr others,rfl⟩

theorem forall₂_zipIdx {schema : Option (Json Text) → Parsed A} {items : List (Json Text)} {values : List A} (start : Nat) :
    List.Forall₂ (fun (item : Json Text × Nat) value => schema (some item.1) = .valid value)
        (items.zipIdx start) values ↔
      List.Forall₂ (fun item value => schema (some item) = .valid value) items values := by
  induction items generalizing start values with
  | nil => simp
  | cons item rest ih =>
    cases values with
    | nil => simp
    | cons value others => simp [List.zipIdx_cons,ih]

/-- An array is accepted item by item, once it is long enough. -/
theorem array_valid {minimum : Nat} {schema : Option (Json Text) → Parsed A} {values : List A} :
    array minimum schema raw = .valid values ↔ ∃ items, raw = some (.arr items) ∧
      minimum ≤ items.length ∧ List.Forall₂ (fun item value => schema (some item) = .valid value) items values := by
  unfold array
  split
  next items =>
    rw [refine_valid,every_valid,List.forall₂_map_left_iff,forall₂_zipIdx,decide_eq_true_eq]
    constructor
    · intro accepted
      obtain ⟨all,enough⟩ := accepted
      exact ⟨items,rfl,all.length_eq ▸ enough,all⟩
    · intro accepted
      obtain ⟨other,same,enough,all⟩ := accepted
      obtain rfl := Json.arr.inj (Option.some.inj same)
      exact ⟨all,all.length_eq ▸ enough⟩
  next other =>
    refine ⟨(fun impossible => by cases impossible),?_⟩
    intro accepted
    obtain ⟨items,same,_⟩ := accepted
    exact absurd same (other items)

variable [JsText Text]

theorem field_valid [BEq Text] {fields : List (Text × Json Text)} {name : String}
    {schema : Option (Json Text) → Parsed A} {value : A} :
    field fields name schema = .valid value ↔ schema (fields.lookup (JsText.ofString name)) = .valid value :=
  under_valid

def Within (minimum maximum : Option Nat) (text : Text) : Prop :=
  (∀ bound, minimum = some bound → bound ≤ JsText.utf16Length text) ∧
    ∀ bound, maximum = some bound → JsText.utf16Length text ≤ bound

theorem string_valid {minimum maximum : Option Nat} {text : Text} :
    string minimum maximum raw = .valid text ↔ raw = some (.str text) ∧ Within minimum maximum text := by
  unfold string
  split
  next found =>
    have limits : (((minimum.filter (fun bound => JsText.utf16Length found < bound)).map
          (fun bound => (⟨[],.tooSmall "string" bound⟩ : Issue))).toList ++
        ((maximum.filter (fun bound => bound < JsText.utf16Length found)).map
          (fun bound => (⟨[],.tooBig "string" bound⟩ : Issue))).toList) = [] ↔
        Within minimum maximum found := by
      simp [Within,Option.filter_eq_none_iff]
    dsimp only
    split
    next none =>
      have within := limits.mp none
      constructor
      · intro same
        obtain rfl := Parsed.valid.inj same
        exact ⟨rfl,within⟩
      · intro accepted
        rw [(Json.str.inj (Option.some.inj accepted.1))]
    next issues =>
      refine ⟨(fun impossible => by cases impossible),?_⟩
      intro accepted
      obtain ⟨same,within⟩ := accepted
      obtain rfl := Json.str.inj (Option.some.inj same)
      exact absurd (limits.mpr within) issues
  next other =>
    refine ⟨(fun impossible => by cases impossible),?_⟩
    intro accepted
    exact absurd accepted.1 (other text)

theorem formatted_valid {format : String} {accepts : String → Bool} {string : String} :
    formatted format accepts raw = .valid string ↔
      raw = some (.str (JsText.ofString string)) ∧ accepts string = true := by
  unfold formatted
  split
  next text =>
    rw [Option.some.injEq,Json.str.injEq,← JsText.toString?_eq_some_iff]
    cases decoded : (JsText.toString? text).filter accepts with
    | some found =>
      obtain ⟨read,accepted⟩ := Option.filter_eq_some_iff.mp decoded
      simp only [read,Parsed.valid.injEq,Option.some.injEq]
      exact ⟨fun same => ⟨same,same ▸ accepted⟩,fun both => both.1⟩
    | none =>
      refine ⟨(fun impossible => by cases impossible),?_⟩
      intro both
      exact absurd (Option.filter_eq_some_iff.mpr both) (by simp [decoded])
  next other =>
    refine ⟨(fun impossible => by cases impossible),?_⟩
    intro both
    exact absurd both.1 (other _)

/-- A name is only read off a well-formed text. -/
theorem oneOf_valid {values : List (String × A)} {value : A} : oneOf values raw = .valid value ↔
    ∃ string, raw = some (.str (JsText.ofString string)) ∧ values.lookup string = some value := by
  unfold oneOf
  dsimp only
  split
  next found =>
    split at found
    next text =>
      obtain ⟨string,read,named⟩ := Option.bind_eq_some_iff.mp found
      obtain rfl := JsText.toString?_eq_some_iff.mp read
      rw [Parsed.valid.injEq]
      constructor
      · intro same
        exact ⟨string,rfl,same ▸ named⟩
      · intro accepted
        obtain ⟨other,same,here⟩ := accepted
        obtain rfl := JsText.ofString_inj.mp (Json.str.inj (Option.some.inj same))
        exact Option.some.inj (named.symm.trans here)
    next => cases found
  next missing =>
    refine ⟨(fun impossible => by cases impossible),?_⟩
    intro accepted
    obtain ⟨string,rfl,here⟩ := accepted
    dsimp only at missing
    rw [JsText.toString?_ofString,Option.bind_some] at missing
    exact absurd (missing.symm.trans here) (by simp)

/-- The values of a record are those of its keys, but for `__proto__`, which the library passes over. -/
theorem record_valid [BEq Text] {key : Option (Json Text) → Parsed Text} {schema : Option (Json Text) → Parsed A}
    {values : List (Text × A)} : record key schema raw = .valid values ↔ ∃ fields, raw = some (.obj fields) ∧
      List.Forall₂ (fun entry value => key (some (.str entry.1)) = .valid value.1 ∧
        schema (some entry.2) = .valid value.2) (fields.filter (fun entry => entry.1 != JsText.ofString "__proto__"))
        values := by
  have entry : ∀ (field : Text × Json Text) (value : Text × A),
      (match key (some (.str field.1)) with
        | .valid name => (fun value => (name,value)) <$> schema (some field.2)
        | .invalid _ _ => Parsed.fail (.invalidKey "record")) = .valid value ↔
      key (some (.str field.1)) = .valid value.1 ∧ schema (some field.2) = .valid value.2 := by
    intro field value
    obtain ⟨name,part⟩ := value
    cases named : key (some (.str field.1)) with
    | valid found =>
      simp only [map_valid,Parsed.valid.injEq,Prod.mk.injEq]
      constructor
      · intro accepted
        obtain ⟨other,parsed,rfl,rfl⟩ := accepted
        exact ⟨rfl,parsed⟩
      · intro accepted
        obtain ⟨rfl,parsed⟩ := accepted
        exact ⟨part,parsed,rfl,rfl⟩
    | invalid issues kept => simp [Parsed.fail]
  unfold record
  split
  next fields =>
    rw [every_valid,List.forall₂_map_left_iff]
    simp only [entry]
    constructor
    · intro all
      exact ⟨fields,rfl,all⟩
    · intro accepted
      obtain ⟨other,same,all⟩ := accepted
      obtain rfl := Json.obj.inj (Option.some.inj same)
      exact all
  next other =>
    refine ⟨(fun impossible => by cases impossible),?_⟩
    intro accepted
    obtain ⟨fields,same,_⟩ := accepted
    exact absurd same (other fields)

end accepted

end Schema

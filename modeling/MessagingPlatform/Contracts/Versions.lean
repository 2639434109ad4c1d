import MessagingPlatform.Lib.Text
import MessagingPlatform.Contracts.RoundTrip

/-! The resolution of the schema version from values of which nothing is known: which sources name a
version, and which of them is heard. -/
namespace MessagingPlatform

/-- A JSON value, any number, or a Buffer with the text that its bytes spell. -/
inductive Unknown where
  | json (value : Json)
  | number (value : JsNumber)
  | buffer (text : String)

namespace Unknown

def source : Unknown → VersionSource
  | .json value => .json value
  | .number value => .header (.num value)
  | .buffer text => .header (.buffer text)

/-- A number is no object, and a Buffer has no member of the names that are read. -/
def get? : Unknown → String → Option Json
  | .json value, name => value.get? name
  | .number _, _ | .buffer _, _ => none

def extractFromTypeSuffix : Unknown → Option SchemaVersion
  | .json value => MessagingPlatform.extractFromTypeSuffix (some value)
  | .number _ | .buffer _ => none

def typeSource (envelope type : Option Unknown) : Option Unknown :=
  type.or ((envelope.bind (fun value => value.get? "type")).map .json)

def resolveSchemaVersion (engine : Engine) (envelope header type : Option Unknown) : SchemaVersion :=
  let fromEnvelopeField := (envelope.bind (fun value => value.get? "schemaVersion")).bind
    (fun value => coerceToSchemaVersion engine (.json value))
  let fromHeader := header.bind (fun value => coerceToSchemaVersion engine value.source)
  let fromType := (typeSource envelope type).bind extractFromTypeSuffix
  ((fromEnvelopeField.or fromHeader).or fromType).getD defaultSchemaVersion

end Unknown

def HeaderValue.unknown : HeaderValue → Unknown
  | .str text => .json (.str text)
  | .num value => .number value
  | .buffer text => .buffer text
  | .json value => .json value

/-- The sources that the handler has are resolved as any others; tables, arrays and booleans, which are
all that `json` stands for in a header, name no version. -/
theorem resolveSchemaVersion_unknown (engine : Engine) (sources : SchemaVersionSources)
    (nested : ∀ value, sources.header = some (.json value) → coerceToSchemaVersion engine (.json value) = none) :
    resolveSchemaVersion engine sources = Unknown.resolveSchemaVersion engine (sources.envelope.map .json)
      (sources.header.map HeaderValue.unknown) (sources.type.map .json) := by
  obtain ⟨envelope,header,type⟩ := sources
  have sameHeader : (header.bind (fun value => coerceToSchemaVersion engine (.header value))) =
      (header.map HeaderValue.unknown).bind (fun value => coerceToSchemaVersion engine value.source) := by
    cases header with
    | none => rfl
    | some value =>
      cases value with
      | json value => exact (nested value rfl).symm
      | _ => rfl
  have sameType : extractFromTypeSuffix (type.or (readEnvelope envelope "type")) =
      (Unknown.typeSource (envelope.map .json) (type.map .json)).bind Unknown.extractFromTypeSuffix := by
    unfold Unknown.typeSource readEnvelope
    cases type with
    | some value => rfl
    | none =>
      cases envelope with
      | none => rfl
      | some value =>
        simp only [Option.none_or,Option.bind_some,Option.map_none,Option.map_some,Unknown.get?]
        cases value.get? "type" <;> rfl
  unfold resolveSchemaVersion Unknown.resolveSchemaVersion
  dsimp only
  rw [sameHeader,sameType]
  cases envelope <;> rfl

def Spells (text : String) (version : SchemaVersion) : Prop :=
  ∃ before after : List Char, (∀ c ∈ before, c.isJsSpace) ∧ (∀ c ∈ after, c.isJsSpace) ∧
    text.toList = before ++ version.name.toList ++ after

theorem versionOfText_iff {text : String} {version : SchemaVersion} :
    versionOfText text = some version ↔ Spells text version := by
  unfold versionOfText Spells
  rw [schemaVersions_lookup]
  apply Text.jsTrim_eq_iff
  · cases version <;> simp [SchemaVersion.name,Char.isJsSpace]
  · cases version <;> decide

inductive Unknown.Names (engine : Engine) : Unknown → SchemaVersion → Prop
  | text {text version} (spelt : Spells text version) : Names engine (.json (.str text)) version
  | num {value version} (spelt : Spells (engine.print (.finite value)) version) :
      Names engine (.json (.num value)) version
  | number {value version} (spelt : Spells (engine.print value) version) : Names engine (.number value) version
  | buffer {text version} (spelt : Spells text version) : Names engine (.buffer text) version

theorem coerceToSchemaVersion_iff {engine : Engine} {value : Unknown} {version : SchemaVersion} :
    coerceToSchemaVersion engine value.source = some version ↔ value.Names engine version := by
  cases value with
  | json value =>
    cases value with
    | str text => exact versionOfText_iff.trans ⟨.text,fun | .text spelt => spelt⟩
    | num value => exact versionOfText_iff.trans ⟨.num,fun | .num spelt => spelt⟩
    | null | bool _ | arr _ | obj _ =>
      constructor <;> intro impossible <;> cases impossible
  | number value => exact versionOfText_iff.trans ⟨.number,fun | .number spelt => spelt⟩
  | buffer text => exact versionOfText_iff.trans ⟨.buffer,fun | .buffer spelt => spelt⟩

theorem typeSuffix_iff {text digits : String} : typeSuffix text = some digits ↔
    digits ≠ "" ∧ (∀ c ∈ digits.toList, c.isDigit) ∧
      ∃ before : List Char, text.toList = before ++ '.' :: 'v' :: digits.toList := by
  have scanned : ∀ before : List Char,
      text.toList.reverse.takeWhile Char.isDigit = digits.toList.reverse ∧
        text.toList.reverse.drop digits.toList.length = 'v' :: '.' :: before.reverse ↔
      (∀ c ∈ digits.toList, c.isDigit) ∧ text.toList = before ++ '.' :: 'v' :: digits.toList := by
    intro before
    have split : text.toList.reverse.takeWhile Char.isDigit = digits.toList.reverse ∧
        text.toList.reverse.drop digits.toList.length = 'v' :: (before ++ ['.']).reverse ↔
      (∀ c ∈ digits.toList, c.isDigit) ∧ text.toList = (before ++ ['.']) ++ 'v' :: digits.toList :=
      Text.run_eq_iff (by decide)
    simpa using split
  unfold typeSuffix
  dsimp only
  constructor
  · intro found
    split at found
    next first rest behind run front =>
      obtain rfl := Option.some.inj found
      have length : (String.ofList (text.toList.reverse.takeWhile Char.isDigit).reverse).toList.length =
          (text.toList.reverse.takeWhile Char.isDigit).length := by simp
      obtain ⟨kind,split⟩ := (scanned behind.reverse).mp ⟨by simp,by rw [length,front,List.reverse_reverse]⟩
      refine ⟨?_,kind,behind.reverse,split⟩
      rw [run]
      simp
    next => cases found
  · intro split
    obtain ⟨some,kind,before,whole⟩ := split
    obtain ⟨run,front⟩ := (scanned before).mpr ⟨kind,whole⟩
    have letters : digits.toList.reverse ≠ [] := by simpa using some
    have back : String.ofList digits.toList.reverse.reverse = digits := by simp
    have ran : (text.toList.reverse.takeWhile Char.isDigit).length = digits.toList.length := by
      rw [run,List.length_reverse]
    rw [ran,front,run]
    obtain ⟨first,rest,same⟩ := List.exists_cons_of_ne_nil letters
    rw [same] at back ⊢
    exact congrArg Option.some back

def Unknown.Suffixed (type : Unknown) (version : SchemaVersion) : Prop :=
  ∃ before : String, type = .json (.str (before ++ ".v" ++ version.name))

theorem name_digits (version : SchemaVersion) :
    version.name ≠ "" ∧ (∀ c ∈ version.name.toList, c.isDigit) ∧ version.name.jsTrim = version.name := by
  refine ⟨?_,?_,?_⟩
  · cases version <;> decide
  · cases version <;> simp [SchemaVersion.name]
  · cases version <;> decide

theorem isJsSpace_digit {c : Char} (digit : c.isDigit) : ¬ c.isJsSpace := by
  have range : 48 ≤ c.toNat ∧ c.toNat ≤ 57 := by
    simpa [Char.isDigit,UInt32.le_iff_toNat_le] using digit
  simp only [Char.isJsSpace]
  grind

theorem versionOfText_digits {digits : String} (kind : ∀ c ∈ digits.toList, c.isDigit) {version : SchemaVersion} :
    versionOfText digits = some version ↔ digits = version.name := by
  constructor
  · intro named
    obtain ⟨before,after,blankBefore,blankAfter,split⟩ := versionOfText_iff.mp named
    have noneBefore : before = [] := List.eq_nil_iff_forall_not_mem.mpr (fun c member =>
      isJsSpace_digit (kind c (by simp [split,member])) (blankBefore c member))
    have noneAfter : after = [] := List.eq_nil_iff_forall_not_mem.mpr (fun c member =>
      isJsSpace_digit (kind c (by simp [split,member])) (blankAfter c member))
    rw [noneBefore,noneAfter,List.nil_append,List.append_nil] at split
    exact String.toList_inj.mp split
  · rintro rfl
    exact versionOfText_iff.mpr ⟨[],[],by simp,by simp,by simp⟩

theorem extractFromTypeSuffix_iff {type : Unknown} {version : SchemaVersion} :
    type.extractFromTypeSuffix = some version ↔ type.Suffixed version := by
  constructor
  · intro found
    cases type with
    | number value => cases found
    | buffer text => cases found
    | json value =>
      cases value with
      | str text =>
        obtain ⟨digits,suffix,named⟩ := Option.bind_eq_some_iff.mp found
        obtain ⟨-,kind,before,split⟩ := typeSuffix_iff.mp suffix
        obtain rfl := (versionOfText_digits kind).mp named
        refine ⟨String.ofList before,congrArg (fun text => Unknown.json (.str text)) (String.toList_inj.mp ?_)⟩
        simp [split]
      | null | bool _ | num _ | arr _ | obj _ => cases found
  · rintro ⟨before,rfl⟩
    obtain ⟨some,kind,-⟩ := name_digits version
    have suffix : typeSuffix (before ++ ".v" ++ version.name) = Option.some version.name :=
      typeSuffix_iff.mpr ⟨some,kind,before.toList,by simp⟩
    exact Option.bind_eq_some_iff.mpr ⟨version.name,suffix,(versionOfText_digits kind).mpr rfl⟩

namespace Unknown

inductive FromEnvelope (engine : Engine) (envelope : Option Unknown) (version : SchemaVersion) : Prop
  | field {value member} (present : envelope = some value) (read : value.get? "schemaVersion" = some member)
      (names : Names engine (.json member) version)

inductive FromHeader (engine : Engine) (header : Option Unknown) (version : SchemaVersion) : Prop
  | header {value} (present : header = some value) (names : Names engine value version)

inductive FromType (envelope type : Option Unknown) (version : SchemaVersion) : Prop
  | given {value} (present : type = some value) (ends : Suffixed value version)
  | read {value member} (absent : type = none) (present : envelope = some value)
      (read : value.get? "type" = some member) (ends : Suffixed (.json member) version)

theorem fromEnvelope_iff {engine : Engine} {envelope : Option Unknown} {version : SchemaVersion} :
    (envelope.bind (fun value => value.get? "schemaVersion")).bind
      (fun value => coerceToSchemaVersion engine (.json value)) = some version ↔
    FromEnvelope engine envelope version := by
  rw [Option.bind_eq_some_iff]
  constructor
  · rintro ⟨member,found,coerced⟩
    obtain ⟨value,present,read⟩ := Option.bind_eq_some_iff.mp found
    have names : Names engine (.json member) version := coerceToSchemaVersion_iff.mp coerced
    exact .field present read names
  · rintro ⟨present,read,names⟩
    exact ⟨_,by rw [present]; exact read,coerceToSchemaVersion_iff.mpr names⟩

theorem fromHeader_iff {engine : Engine} {header : Option Unknown} {version : SchemaVersion} :
    header.bind (fun value => coerceToSchemaVersion engine value.source) = some version ↔
    FromHeader engine header version := by
  rw [Option.bind_eq_some_iff]
  constructor
  · rintro ⟨value,present,coerced⟩
    exact .header present (coerceToSchemaVersion_iff.mp coerced)
  · rintro ⟨present,names⟩
    exact ⟨_,present,coerceToSchemaVersion_iff.mpr names⟩

theorem fromType_iff {envelope type : Option Unknown} {version : SchemaVersion} :
    (typeSource envelope type).bind extractFromTypeSuffix = some version ↔ FromType envelope type version := by
  rw [Option.bind_eq_some_iff]
  constructor
  · rintro ⟨source,chosen,extracted⟩
    have ends := extractFromTypeSuffix_iff.mp extracted
    cases type with
    | some value =>
      obtain rfl := Option.some.inj chosen
      exact .given rfl ends
    | none =>
      obtain ⟨member,found,rfl⟩ := Option.map_eq_some_iff.mp chosen
      obtain ⟨value,present,read⟩ := Option.bind_eq_some_iff.mp found
      exact .read rfl present read ends
  · intro origin
    cases origin with
    | given present ends => exact ⟨_,by rw [present]; rfl,extractFromTypeSuffix_iff.mpr ends⟩
    | read absent present read ends =>
      refine ⟨_,?_,extractFromTypeSuffix_iff.mpr ends⟩
      rw [absent,present]
      exact congrArg (Option.map Unknown.json) read

theorem version_listed (version : SchemaVersion) : version.name ∈ schemaVersions.map Prod.fst := by
  cases version <;> decide

/-- The first source that names a version decides, whatever the later ones hold; one that names none
decides nothing. -/
theorem version_precedence (engine : Engine) (envelope header type : Option Unknown) :
    (resolveSchemaVersion engine envelope header type).name ∈ schemaVersions.map Prod.fst ∧
    (∀ version, FromEnvelope engine envelope version →
      ∀ header type, resolveSchemaVersion engine envelope header type = version) ∧
    ((∀ version, ¬ FromEnvelope engine envelope version) →
      (∀ version, FromHeader engine header version →
        ∀ type, resolveSchemaVersion engine envelope header type = version) ∧
      ((∀ version, ¬ FromHeader engine header version) →
        (∀ version, FromType envelope type version →
          resolveSchemaVersion engine envelope header type = version) ∧
        ((∀ version, ¬ FromType envelope type version) →
          resolveSchemaVersion engine envelope header type = .v1))) := by
  have unnamed : ∀ {A : Type} {found : Option A}, (∀ version, found ≠ some version) → found = none :=
    fun silent => Option.eq_none_iff_forall_ne_some.mpr silent
  refine ⟨version_listed _,?_,?_⟩
  · intro version named header type
    unfold resolveSchemaVersion
    simp only [fromEnvelope_iff.mpr named,Option.some_or,Option.getD_some]
  · intro silentEnvelope
    have noEnvelope := unnamed (fun version found => silentEnvelope version (fromEnvelope_iff.mp found))
    refine ⟨?_,?_⟩
    · intro version named type
      unfold resolveSchemaVersion
      simp only [noEnvelope,fromHeader_iff.mpr named,Option.none_or,Option.some_or,Option.getD_some]
    · intro silentHeader
      have noHeader := unnamed (fun version found => silentHeader version (fromHeader_iff.mp found))
      refine ⟨?_,?_⟩
      · intro version named
        unfold resolveSchemaVersion
        simp only [noEnvelope,noHeader,fromType_iff.mpr named,Option.none_or,Option.getD_some]
      · intro silentType
        have noType := unnamed (fun version found => silentType version (fromType_iff.mp found))
        unfold resolveSchemaVersion
        simp only [noEnvelope,noHeader,noType,Option.none_or,Option.getD_none]
        rfl

end Unknown
end MessagingPlatform

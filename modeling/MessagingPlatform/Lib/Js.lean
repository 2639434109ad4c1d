import Mathlib.Algebra.Field.Rat
import MessagingPlatform.Lib.Binary64
import MessagingPlatform.Lib.Utf16

/-! JavaScript values as far as message contracts need them: numbers with their binary64 arithmetic,
JSON values, message bodies and thrown errors. Texts are Lean strings, with lengths in UTF-16 code
units, and any sequences of UTF-16 code units where a text need not be well formed. -/

inductive JsNumber where
  | finite (value : ℚ)
  | nan
  | infinity (negative : Bool)
deriving DecidableEq

namespace JsNumber

def ofNat (n : Nat) : JsNumber := .finite n

def rounded (exact : ℚ) : JsNumber :=
  match Binary64.round? exact with
  | some value => .finite value
  | none => .infinity (decide (exact < 0))

def binary64 : JsNumber → JsNumber
  | .finite x => rounded x
  | .nan => .nan
  | .infinity s => .infinity s

/-- `x + y`, and `x - y` as the sum with `-y`. -/
def add : JsNumber → JsNumber → JsNumber
  | .finite x, .finite y => rounded (x + y)
  | .nan, _ | _, .nan => .nan
  | .infinity s, .infinity t => if s = t then .infinity s else .nan
  | .infinity s, .finite _ | .finite _, .infinity s => .infinity s

def scale (factor : ℚ) : JsNumber → JsNumber
  | .finite x => rounded (factor * x)
  | .nan => .nan
  | .infinity s => .infinity s

/-- `Math.min`: a NaN argument makes the result NaN. -/
def min : JsNumber → JsNumber → JsNumber
  | .finite x, .finite y => .finite (if x ≤ y then x else y)
  | .nan, _ | _, .nan => .nan
  | .infinity true, _ | _, .infinity true => .infinity true
  | .infinity false, other | other, .infinity false => other

def AtLeast (bound : ℚ) : JsNumber → Prop
  | .finite x => bound ≤ x
  | .infinity negative => negative = false
  | .nan => False

theorem rounded_cases (q : ℚ) : rounded q = .finite (Binary64.round q) ∨
    (2 ^ 1024 ≤ |Binary64.round q| ∧ rounded q = .infinity (decide (q < 0))) := by
  unfold rounded Binary64.round?
  split_ifs with small
  · exact .inl rfl
  · exact .inr ⟨not_lt.mp small,rfl⟩

/-- Nothing overflows whose rounding is small. -/
theorem rounded_finite {q : ℚ} (small : |Binary64.round q| ≤ 2 ^ 53) : rounded q = .finite (Binary64.round q) := by
  obtain exact | ⟨large,-⟩ := rounded_cases q
  · exact exact
  · have order : (2 : ℚ) ^ 53 < 2 ^ 1024 := pow_lt_pow_right₀ one_lt_two (by decide)
    exact absurd (large.trans small) (not_le.mpr order)

/-- Whole numbers up to 2^53 are exact. -/
theorem rounded_intCast {n : Int} (bits : |n| ≤ 2 ^ 53) : rounded n = .finite n := by
  have exact := Binary64.round_intCast bits
  have small : |Binary64.round n| ≤ 2 ^ 53 := by
    rw [exact]
    exact_mod_cast bits
  rw [rounded_finite small,exact]

theorem rounded_natCast {n : Nat} (bits : n ≤ 2 ^ 53) : rounded (n : ℚ) = .finite n := by
  have whole := @rounded_intCast n (by rw [Nat.abs_cast]; exact_mod_cast bits)
  exact_mod_cast whole

/-- Rounding stays on the same side of a representable bound. -/
theorem rounded_atLeast {bound q : ℚ} (representable : Binary64.Representable bound) (positive : 0 ≤ bound)
    (below : bound ≤ q) : (rounded q).AtLeast bound := by
  obtain exact | ⟨-,overflow⟩ := rounded_cases q
  · rw [exact]
    exact Binary64.le_round representable below
  · rw [overflow]
    exact decide_eq_false (not_lt.mpr (positive.trans below))

theorem rounded_whole (n : Int) : (∃ m : Int, rounded n = .finite m) ∨
    rounded n = .infinity (decide ((n : ℚ) < 0)) := by
  obtain exact | ⟨-,overflow⟩ := rounded_cases n
  · obtain ⟨m,whole⟩ := Binary64.round_whole n
    rw [whole] at exact
    exact .inl ⟨m,exact⟩
  · exact .inr overflow

theorem AtLeast.scale {bound factor : ℚ} {value : JsNumber} (least : value.AtLeast bound)
    (representable : Binary64.Representable (factor * bound)) (positive : 0 ≤ factor) (nonnegative : 0 ≤ bound) :
    (value.scale factor).AtLeast (factor * bound) := by
  cases value with
  | finite x =>
    exact rounded_atLeast representable (mul_nonneg positive nonnegative) (mul_le_mul_of_nonneg_left least positive)
  | infinity negative => exact least
  | nan => exact least

theorem AtLeast.min_eq {bound cap : ℚ} {value : JsNumber} (least : value.AtLeast bound) (above : cap ≤ bound) :
    value.min (.finite cap) = .finite cap := by
  cases value with
  | finite x =>
    have reached : cap ≤ x := above.trans least
    change JsNumber.finite (if x ≤ cap then x else cap) = .finite cap
    split_ifs with within
    · rw [le_antisymm within reached]
    · rfl
  | infinity negative =>
    obtain rfl : negative = false := least
    rfl
  | nan => exact least.elim

/-- What is not negative is finite under a cap. -/
theorem AtLeast.min_finite {cap : ℚ} {value : JsNumber} (least : value.AtLeast 0) :
    ∃ x ≤ cap, value.min (.finite cap) = .finite x := by
  cases value with
  | finite x =>
    refine ⟨if x ≤ cap then x else cap,?_,rfl⟩
    split_ifs with within
    · exact within
    · exact le_refl cap
  | infinity negative =>
    obtain rfl : negative = false := least
    exact ⟨cap,le_refl cap,rfl⟩
  | nan => exact least.elim

end JsNumber

/-- What the language leaves to the engine, or the model to it: powers with a fractional exponent, and
the printing of fractions and of whole numbers beyond 2^53. -/
structure Engine where
  fractionalPower : ℚ → JsNumber
  printFloating : ℚ → String

namespace Engine

/-- `Math.pow(2, x)`. -/
def powTwo (engine : Engine) : JsNumber → JsNumber
  | .finite x => if x.den = 1 then .rounded ((2 : ℚ) ^ x.num) else (engine.fractionalPower x).binary64
  | .nan => .nan
  | .infinity true => .finite 0
  | .infinity false => .infinity false

theorem powTwo_intCast (engine : Engine) (n : Int) : engine.powTwo (.finite n) = .rounded ((2 : ℚ) ^ n) := by
  unfold powTwo
  dsimp only
  rw [Rat.den_intCast,if_pos rfl,Rat.num_intCast]

theorem powTwo_representable {engine : Engine} {exponent : JsNumber} {x : ℚ}
    (power : engine.powTwo exponent = .finite x) : Binary64.Representable x := by
  have made : ∀ q, JsNumber.rounded q = .finite x → Binary64.Representable x := by
    intro q rounded
    obtain exact | ⟨-,overflow⟩ := JsNumber.rounded_cases q
    · obtain rfl := JsNumber.finite.inj (exact.symm.trans rounded)
      exact Binary64.representable_round q
    · cases overflow.symm.trans rounded
  cases exponent with
  | finite y =>
    unfold powTwo at power
    dsimp only at power
    split_ifs at power
    · exact made _ power
    · cases raised : engine.fractionalPower y with
      | finite z =>
        rw [raised] at power
        exact made z power
      | nan => rw [raised] at power; cases power
      | infinity negative => rw [raised] at power; cases power
  | nan => cases power
  | infinity negative =>
    cases negative with
    | true =>
      obtain rfl := JsNumber.finite.inj power
      exact ⟨0,0,by decide,by decide,by simp⟩
    | false => cases power

/-- `String(n)`. -/
def print (engine : Engine) : JsNumber → String
  | .finite x => if x.den = 1 ∧ x.num.natAbs ≤ 2 ^ 53 then toString x.num else engine.printFloating x
  | .nan => "NaN"
  | .infinity true => "-Infinity"
  | .infinity false => "Infinity"

theorem print_natCast (engine : Engine) {n : Nat} (bits : n ≤ 2 ^ 53) : engine.print (.finite n) = toString n := by
  unfold print
  dsimp only
  rw [if_pos ⟨Rat.den_natCast n,by rw [Rat.num_natCast]; exact bits⟩,Rat.num_natCast]
  rfl

end Engine

/-- `new Date(instant + ms)`, with instants in milliseconds; `none` is an invalid date. -/
def addMs (instant : Int) : JsNumber → Option Int
  | .finite ms =>
      let time : ℚ := instant + ms
      some (time.num.tdiv time.den)
  | .nan | .infinity _ => none

def padded (width : Nat) (n : Int) : String :=
  let digits := toString n.natAbs
  "".pushn '0' (width - digits.length) ++ digits

def civilDate (days : Int) : Int × Int × Int :=
  let shifted := days + 719468
  let era := shifted / 146097
  let dayOfEra := shifted % 146097
  let yearOfEra := (dayOfEra - dayOfEra / 1460 + dayOfEra / 36524 - dayOfEra / 146096) / 365
  let dayOfYear := dayOfEra - (365 * yearOfEra + yearOfEra / 4 - yearOfEra / 100)
  let month := (5 * dayOfYear + 2) / 153
  let day := dayOfYear - (153 * month + 2) / 5 + 1
  -- the era's years start in March
  if month < 10 then (yearOfEra + era * 400,month + 3,day) else (yearOfEra + era * 400 + 1,month - 9,day)

/-- `new Date(instant).toISOString()`. -/
def toIsoString (instant : Int) : String :=
  let (year,month,day) := civilDate (instant / 86400000)
  let time := instant % 86400000
  let years := if 0 ≤ year ∧ year ≤ 9999 then padded 4 year
    else (if year < 0 then "-" else "+") ++ padded 6 year
  s!"{years}-{padded 2 month}-{padded 2 day}T{padded 2 (time / 3600000)}:" ++
    s!"{padded 2 (time / 60000 % 60)}:{padded 2 (time / 1000 % 60)}.{padded 3 (time % 1000)}Z"

def Char.utf16Units (c : Char) : Nat := if c.val < 0x10000 then 1 else 2

/-- `s.length`. -/
def String.utf16Length (s : String) : Nat := (s.toList.map Char.utf16Units).sum

/-- What is read off a text; `toString?` is `none` of a text that is not well formed. -/
class JsText (Text : Type) where
  ofString : String → Text
  toString? : Text → Option String
  toWellFormed : Text → String
  utf16Length : Text → Nat
  toString?_eq_some_iff {text : Text} {string : String} : toString? text = some string ↔ text = ofString string

namespace JsText

instance : JsText String where
  ofString string := string
  toString? := some
  toWellFormed string := string
  utf16Length := String.utf16Length
  toString?_eq_some_iff := Option.some_inj

instance : JsText Utf16 where
  ofString := Utf16.encode
  toString? := Utf16.decode?
  toWellFormed := Utf16.toWellFormed
  utf16Length text := text.units.length
  toString?_eq_some_iff := Utf16.decode?_eq_some_iff

@[simp] theorem ofString_string (text : String) : (ofString text : String) = text := rfl

variable {Text : Type} [JsText Text]

@[simp] theorem toString?_ofString (string : String) : toString? (ofString string : Text) = some string :=
  toString?_eq_some_iff.mpr rfl

theorem ofString_inj {string other : String} : (ofString string : Text) = ofString other ↔ string = other := by
  constructor
  · intro same
    have read := @toString?_ofString Text _ string
    rw [same,toString?_ofString] at read
    exact (Option.some.inj read).symm
  · exact fun same => same ▸ rfl

end JsText

inductive Json (Text : Type := String) where
  | null
  | bool (value : Bool)
  | num (value : ℚ)
  | str (value : Text)
  | arr (items : List (Json Text))
  | obj (fields : List (Text × Json Text))

namespace Json

def string {Text : Type} [JsText Text] (text : String) : Json Text := .str (JsText.ofString text)

@[simp] theorem string_string (text : String) : (string text : Json) = .str text := rfl

/-- The property `name` of a value; `none` is `undefined`. -/
def get? : Json → String → Option Json
  | .obj fields, name => fields.lookup name
  | _, _ => none

/-- An object literal; members whose value is `undefined` do not survive `JSON.stringify`. -/
def ofFields {Text : Type} [JsText Text] (fields : List (String × Option (Json Text))) : Json Text :=
  .obj (fields.filterMap (fun field => field.2.map (fun value => (JsText.ofString field.1,value))))

def escape (c : Char) : String :=
  let n := c.toNat
  if n = 0x22 then "\\\""
  else if n = 0x5C then "\\\\"
  else if n = 8 then "\\b"
  else if n = 9 then "\\t"
  else if n = 10 then "\\n"
  else if n = 12 then "\\f"
  else if n = 13 then "\\r"
  else if n < 0x20 then
    let digits := String.ofList (Nat.toDigits 16 n)
    "\\u" ++ "".pushn '0' (4 - digits.length) ++ digits
  else c.toString

def quote (text : String) : String := "\"" ++ String.join (text.toList.map escape) ++ "\""

mutual

/-- `JSON.stringify(value)` as a text. -/
def print (engine : Engine) : Json → String
  | .null => "null"
  | .bool value => toString value
  | .num value => engine.print (.finite value)
  | .str value => quote value
  | .arr items => "[" ++ ",".intercalate (printItems engine items) ++ "]"
  | .obj fields => "\x7b" ++ ",".intercalate (printFields engine fields) ++ "\x7d"

def printItems (engine : Engine) : List Json → List String
  | [] => []
  | item :: rest => print engine item :: printItems engine rest

def printFields (engine : Engine) : List (String × Json) → List String
  | [] => []
  | (name,value) :: rest => (quote name ++ ":" ++ print engine value) :: printFields engine rest

end

theorem lookup_ofFields_none {Text : Type} [BEq Text] [LawfulBEq Text] [JsText Text]
    {fields : List (String × Option (Json Text))} {name : String} (absent : name ∉ fields.map Prod.fst) :
    (fields.filterMap (fun field => field.2.map (fun value => ((JsText.ofString field.1 : Text),value)))).lookup
      (JsText.ofString name) = none := by
  rw [List.lookup_eq_none_iff]
  intro entry member
  obtain ⟨field,among,written⟩ := List.mem_filterMap.mp member
  obtain ⟨value,-,rfl⟩ := Option.map_eq_some_iff.mp written
  rw [bne_iff_ne]
  intro same
  exact absent (List.mem_map.mpr ⟨field,among,(JsText.ofString_inj.mp same).symm⟩)

theorem get?_ofFields_none {fields : List (String × Option Json)} {name : String}
    (absent : name ∉ fields.map Prod.fst) : (ofFields fields).get? name = none :=
  @lookup_ofFields_none String _ _ _ _ _ absent

end Json

/-- The bytes of a message, up to the JSON value they spell; `text` is what `JSON.parse` rejects. -/
inductive Body where
  | json (value : Json)
  | text (bytes : String)

namespace Body

def stringify (value : Json) : Body := .json value

def parse : Body → Option Json
  | .json value => some value
  | .text _ => none

@[simp] theorem parse_stringify (value : Json) : parse (stringify value) = some value := rfl

end Body

def Char.isJsSpace (c : Char) : Bool :=
  let n := c.toNat
  (9 ≤ n && n ≤ 13) || n == 0x20 || n == 0xA0 || n == 0x1680 || (0x2000 ≤ n && n ≤ 0x200A) ||
    n == 0x2028 || n == 0x2029 || n == 0x202F || n == 0x205F || n == 0x3000 || n == 0xFEFF

/-- `s.trim()`. -/
def String.jsTrim (s : String) : String :=
  String.ofList (((s.toList.dropWhile Char.isJsSpace).reverse.dropWhile Char.isJsSpace).reverse)

/-- What distinguishes a thrown value: a `ValidationError`, another `Error`, or neither. -/
inductive ThrownKind where
  | validation
  | error
  | other
deriving DecidableEq

/-- A thrown value. A `code` that is not a string never compares equal to one, so it is absent
here, like a missing `driverError`. `message` is `String(value)` when the value is no `Error`. -/
structure Thrown where
  kind : ThrownKind
  constructorName : String
  message : String
  code : Option String
  driverCode : Option String
deriving DecidableEq

def Thrown.ofMessage (message : String) : Thrown := ⟨.error,"Error",message,none,none⟩

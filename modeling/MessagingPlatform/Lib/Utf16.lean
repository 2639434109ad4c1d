import Mathlib.Data.List.Basic

/-! Texts as sequences of UTF-16 code units, well formed or not. A pair of surrogates is one code point,
and so is a surrogate that stands alone. -/

structure Utf16 where
  units : List UInt16
deriving DecidableEq

namespace Utf16

def isHigh (unit : UInt16) : Bool := decide (0xD800 ≤ unit.toNat) && decide (unit.toNat < 0xDC00)

def isLow (unit : UInt16) : Bool := decide (0xDC00 ≤ unit.toNat) && decide (unit.toNat < 0xE000)

def pair (high low : UInt16) : Nat := 0x10000 + (high.toNat - 0xD800) * 0x400 + (low.toNat - 0xDC00)

def pointsOf : List UInt16 → List Nat
  | [] => []
  | [unit] => [unit.toNat]
  | first :: second :: rest =>
      if isHigh first && isLow second then pair first second :: pointsOf rest
      else first.toNat :: pointsOf (second :: rest)

def codePoints (text : Utf16) : List Nat := pointsOf text.units

def unitsOf (point : Nat) : List UInt16 :=
  if point < 0x10000 then [UInt16.ofNat point]
  else [UInt16.ofNat (0xD800 + (point - 0x10000) / 0x400),UInt16.ofNat (0xDC00 + (point - 0x10000) % 0x400)]

def encode (text : String) : Utf16 := ⟨text.toList.flatMap (fun c => unitsOf c.toNat)⟩

/-- No surrogate stands alone. -/
def WellFormed (text : Utf16) : Prop := ∀ point ∈ text.codePoints, point.isValidChar

instance (text : Utf16) : Decidable text.WellFormed := inferInstanceAs (Decidable (∀ point ∈ _, _))

/-- A surrogate that stands alone is replaced by U+FFFD. -/
def toWellFormed (text : Utf16) : String :=
  String.ofList (text.codePoints.map (fun point => if point.isValidChar then Char.ofNat point else '\uFFFD'))

def decode? (text : Utf16) : Option String := if text.WellFormed then some text.toWellFormed else none

theorem pointsOf_cons {unit : UInt16} (single : isHigh unit = false) (rest : List UInt16) :
    pointsOf (unit :: rest) = unit.toNat :: pointsOf rest := by
  cases rest with
  | nil => rfl
  | cons second rest => rw [pointsOf,single,Bool.false_and,if_neg Bool.false_ne_true]

/-- A valid code point is read back from its units, whatever follows. -/
theorem pointsOf_unitsOf {point : Nat} (valid : point.isValidChar) (rest : List UInt16) :
    pointsOf (unitsOf point ++ rest) = point :: pointsOf rest := by
  have bounds : point < 0xD800 ∨ (0xDFFF < point ∧ point < 0x110000) := valid
  unfold unitsOf
  by_cases basic : point < 0x10000
  · rw [if_pos basic]
    have same : (UInt16.ofNat point).toNat = point := by
      rw [UInt16.toNat_ofNat']
      omega
    have single : isHigh (UInt16.ofNat point) = false := by
      unfold isHigh
      rw [same,Bool.and_eq_false_iff,decide_eq_false_iff_not,decide_eq_false_iff_not]
      omega
    rw [List.singleton_append,pointsOf_cons single,same]
  · rw [if_neg basic]
    have high : (UInt16.ofNat (0xD800 + (point - 0x10000) / 0x400)).toNat = 0xD800 + (point - 0x10000) / 0x400 := by
      rw [UInt16.toNat_ofNat']
      omega
    have low : (UInt16.ofNat (0xDC00 + (point - 0x10000) % 0x400)).toNat = 0xDC00 + (point - 0x10000) % 0x400 := by
      rw [UInt16.toNat_ofNat']
      omega
    have paired : (isHigh (UInt16.ofNat (0xD800 + (point - 0x10000) / 0x400)) &&
        isLow (UInt16.ofNat (0xDC00 + (point - 0x10000) % 0x400))) = true := by
      unfold isHigh isLow
      rw [high,low]
      simp only [Bool.and_eq_true,decide_eq_true_eq]
      omega
    have whole : pair (UInt16.ofNat (0xD800 + (point - 0x10000) / 0x400))
        (UInt16.ofNat (0xDC00 + (point - 0x10000) % 0x400)) = point := by
      unfold pair
      rw [high,low]
      omega
    rw [List.cons_append,List.singleton_append,pointsOf,paired,if_pos rfl,whole]

theorem codePoints_encode (text : String) : (encode text).codePoints = text.toList.map Char.toNat := by
  have points : ∀ chars : List Char, pointsOf (chars.flatMap (fun c => unitsOf c.toNat)) = chars.map Char.toNat := by
    intro chars
    induction chars with
    | nil => rfl
    | cons c rest ih =>
      rw [List.flatMap_cons,List.map_cons,← ih]
      exact pointsOf_unitsOf c.valid _
  exact points text.toList

theorem unitsOf_toNat (unit : UInt16) : unitsOf unit.toNat = [unit] := by
  unfold unitsOf
  rw [if_pos unit.toNat_lt,UInt16.ofNat_toNat]

theorem unitsOf_pair {high low : UInt16} (first : isHigh high = true) (second : isLow low = true) :
    unitsOf (pair high low) = [high,low] := by
  simp only [isHigh,isLow,Bool.and_eq_true,decide_eq_true_eq] at first second
  unfold unitsOf pair
  rw [if_neg (by omega)]
  have upper : 0xD800 + (0x10000 + (high.toNat - 0xD800) * 0x400 + (low.toNat - 0xDC00) - 0x10000) / 0x400 =
      high.toNat := by omega
  have lower : 0xDC00 + (0x10000 + (high.toNat - 0xD800) * 0x400 + (low.toNat - 0xDC00) - 0x10000) % 0x400 =
      low.toNat := by omega
  rw [upper,lower,UInt16.ofNat_toNat,UInt16.ofNat_toNat]

/-- The code points tell the units. -/
theorem units_pointsOf (units : List UInt16) : (pointsOf units).flatMap unitsOf = units := by
  induction units using pointsOf.induct with
  | case1 => rfl
  | case2 unit => rw [pointsOf,List.flatMap_singleton,unitsOf_toNat]
  | case3 first second rest paired ih =>
    rw [Bool.and_eq_true] at paired
    rw [pointsOf,paired.1,paired.2,Bool.and_true,if_pos rfl,List.flatMap_cons,unitsOf_pair paired.1 paired.2,ih]
    rfl
  | case4 first second rest apart ih =>
    rw [pointsOf,if_neg apart,List.flatMap_cons,unitsOf_toNat,ih]
    rfl

theorem length_pointsOf_le (units : List UInt16) : (pointsOf units).length ≤ units.length := by
  induction units using pointsOf.induct with
  | case1 => exact Nat.le_refl 0
  | case2 unit => exact Nat.le_refl 1
  | case3 first second rest paired ih =>
    rw [pointsOf,if_pos paired]
    simp only [List.length_cons]
    omega
  | case4 first second rest apart ih =>
    rw [pointsOf,if_neg apart]
    simp only [List.length_cons] at ih ⊢
    omega

theorem wellFormed_encode (text : String) : (encode text).WellFormed := by
  intro point member
  rw [codePoints_encode] at member
  obtain ⟨c,_,rfl⟩ := List.mem_map.mp member
  exact c.valid

theorem eq_zero_of_unit {n : Nat} (small : n < 0x10000) (zero : 0 = UInt16.ofNat n) : n = 0 := by
  have same : 0 = n % 0x10000 := (congrArg UInt16.toNat zero).trans UInt16.toNat_ofNat'
  rw [same,Nat.mod_eq_of_lt small]

theorem zero_mem_unitsOf {point : Nat} (valid : point.isValidChar) (zero : 0 ∈ unitsOf point) : point = 0 := by
  have bounds : point < 0xD800 ∨ (0xDFFF < point ∧ point < 0x110000) := valid
  unfold unitsOf at zero
  split_ifs at zero with basic
  · exact eq_zero_of_unit basic (List.mem_singleton.mp zero)
  · rcases List.mem_cons.mp zero with high | later
    · have none := eq_zero_of_unit (by omega) high
      omega
    · have none := eq_zero_of_unit (by omega) (List.mem_singleton.mp later)
      omega

/-- U+0000 is the only character with the unit 0. -/
theorem zero_mem_encode {text : String} (zero : 0 ∈ (encode text).units) : '\x00' ∈ text.toList := by
  obtain ⟨c,member,unit⟩ := List.mem_flatMap.mp zero
  have null : c.toNat = 0 := zero_mem_unitsOf c.valid unit
  rw [← Char.ofNat_toNat c,null] at member
  exact member

theorem toWellFormed_encode (text : String) : (encode text).toWellFormed = text := by
  unfold toWellFormed
  rw [codePoints_encode,List.map_map]
  have same : (fun point => if point.isValidChar then Char.ofNat point else '\uFFFD') ∘ Char.toNat = id := by
    funext c
    have valid : c.toNat.isValidChar := c.valid
    rw [Function.comp_apply,if_pos valid,Char.ofNat_toNat,id]
  rw [same,List.map_id,String.ofList_toList]

theorem toNat_character {point : Nat} (valid : point.isValidChar) : (Char.ofNat point).toNat = point := by
  unfold Char.ofNat
  rw [dif_pos valid]
  exact UInt32.toNat_ofNatLT

/-- The well-formed texts are the encoded strings. -/
theorem decode?_eq_some_iff {text : Utf16} {string : String} : text.decode? = some string ↔ text = encode string := by
  unfold decode?
  constructor
  · intro decoded
    split_ifs at decoded with wellFormed
    obtain rfl := Option.some.inj decoded
    have back : (text.codePoints.map (fun point => if point.isValidChar then Char.ofNat point else '\uFFFD')).flatMap
        (fun c => unitsOf c.toNat) = text.units := by
      rw [List.flatMap_map,← units_pointsOf text.units]
      refine List.flatMap_congr fun point member => ?_
      rw [if_pos (wellFormed point member),toNat_character (wellFormed point member)]
    unfold encode toWellFormed
    rw [String.toList_ofList,back]
  · rintro rfl
    rw [if_pos (wellFormed_encode string),toWellFormed_encode]

end Utf16

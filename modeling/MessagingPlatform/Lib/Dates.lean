import Mathlib.Data.List.Basic
import MessagingPlatform.Lib.Js

/-! Dates as texts: reading back what `toISOString` writes. -/
namespace MessagingPlatform

def civilDays (year month day : Int) : Int :=
  let shifted := if month ≤ 2 then year - 1 else year
  let yearOfEra := shifted % 400
  let dayOfYear := (153 * ((month + 9) % 12) + 2) / 5 + day - 1
  shifted / 400 * 146097 + (365 * yearOfEra + yearOfEra / 4 - yearOfEra / 100 + dayOfYear) - 719468

def isoNumber (digits : List Char) : Int := Nat.ofDigitChars 10 digits 0

/-- Years beyond four digits carry a sign. -/
def isoYear : List Char → Int
  | '-' :: digits => -isoNumber digits
  | '+' :: digits => isoNumber digits
  | digits => isoNumber digits

/-- The instant that an ISO text spells. The 20 characters behind the year stand at fixed places. -/
def readIsoString (text : String) : Int :=
  let chars := text.toList
  let years := chars.take (chars.length - 20)
  let clock := chars.drop (chars.length - 20)
  let part := fun start width => isoNumber ((clock.drop start).take width)
  civilDays (isoYear years) (part 1 2) (part 4 2) * 86400000 + part 7 2 * 3600000 + part 10 2 * 60000 +
    part 13 2 * 1000 + part 16 3

def maxDate : Int := 8640000000000000

/-- `new Date(text)`; `none` is an invalid date. What `toISOString` does not write is read as the engine
likes. -/
def parseDate (otherwise : String → Option Int) (text : String) : Option Int :=
  let instant := readIsoString text
  if toIsoString instant = text ∧ instant.natAbs ≤ maxDate then some instant else otherwise text

theorem dayOfYear_bounds {day year : Int} (first : 0 ≤ day) (last : day < 146097)
    (same : year = (day - day / 1460 + day / 36524 - day / 146096) / 365) :
    0 ≤ day - (365 * year + year / 4 - year / 100) ∧ day - (365 * year + year / 4 - year / 100) ≤ 365 := by
  obtain rfl | earlier := eq_or_ne day 146096
  · subst same
    decide
  · have end_of_era : day / 146096 = 0 := by omega
    rw [end_of_era] at same
    have leaps : day / 36524 ≤ day / 1460 := by omega
    have fours : 1460 * (year / 4) ≤ day := by omega
    have fourths : year / 4 ≤ day / 1460 := by omega
    have centuries : day / 36524 = year / 100 := by omega
    omega

theorem civilDate_bounds (days : Int) : 1 ≤ (civilDate days).2.1 ∧ (civilDate days).2.1 ≤ 12 ∧
    1 ≤ (civilDate days).2.2 ∧ (civilDate days).2.2 ≤ 31 := by
  unfold civilDate
  dsimp only
  have bounds := @dayOfYear_bounds ((days + 719468) % 146097) _ (by omega) (by omega) rfl
  obtain ⟨first,last⟩ := bounds
  generalize (days + 719468) % 146097 - _ = dayOfYear at *
  split <;> dsimp only <;> omega

/-- Years that start in March count whole eras, years and months apart. -/
theorem civilDays_march {era year month : Int} (early : 0 ≤ year) (late : year ≤ 399) (first : 0 ≤ month)
    (last : month ≤ 11) (day : Int) :
    civilDays (if month < 10 then year + era * 400 else year + era * 400 + 1)
      (if month < 10 then month + 3 else month - 9) day =
    era * 146097 + (365 * year + year / 4 - year / 100 + ((153 * month + 2) / 5 + day - 1)) - 719468 := by
  have shifted : (if (if month < 10 then month + 3 else month - 9) ≤ 2
      then (if month < 10 then year + era * 400 else year + era * 400 + 1) - 1
      else (if month < 10 then year + era * 400 else year + era * 400 + 1)) = year + era * 400 := by
    split_ifs <;> omega
  have march : ((if month < 10 then month + 3 else month - 9) + 9) % 12 = month := by
    split_ifs <;> omega
  have eras : (year + era * 400) / 400 = era := by omega
  have years : (year + era * 400) % 400 = year := by omega
  unfold civilDays
  dsimp only
  rw [shifted,march,eras,years]

theorem civilDays_civilDate (days : Int) :
    civilDays (civilDate days).1 (civilDate days).2.1 (civilDate days).2.2 = days := by
  let dayOfEra := (days + 719468) % 146097
  let yearOfEra := (dayOfEra - dayOfEra / 1460 + dayOfEra / 36524 - dayOfEra / 146096) / 365
  let dayOfYear := dayOfEra - (365 * yearOfEra + yearOfEra / 4 - yearOfEra / 100)
  let month := (5 * dayOfYear + 2) / 153
  obtain ⟨first,last⟩ : 0 ≤ dayOfYear ∧ dayOfYear ≤ 365 := dayOfYear_bounds (by omega) (by omega) rfl
  have split : civilDate days = (if month < 10 then yearOfEra + (days + 719468) / 146097 * 400
      else yearOfEra + (days + 719468) / 146097 * 400 + 1,
      if month < 10 then month + 3 else month - 9,dayOfYear - (153 * month + 2) / 5 + 1) := by
    unfold civilDate
    dsimp only
    split <;> rfl
  rw [split]
  dsimp only
  rw [civilDays_march (by omega) (by omega) (by omega) (by omega)]
  omega

theorem toList_padded (width : Nat) (n : Int) : (padded width n).toList =
    List.replicate (width - (Nat.toDigits 10 n.natAbs).length) '0' ++ Nat.toDigits 10 n.natAbs := by
  have digits : (toString n.natAbs).toList = Nat.toDigits 10 n.natAbs := by
    change (Nat.repr n.natAbs).toList = _
    simp [Nat.repr]
  have zeros : ∀ count : Nat, ("".pushn '0' count).toList = List.replicate count '0' := by
    intro count
    rw [String.pushn_eq_repeat_push]
    induction count with
    | zero => rfl
    | succ count ih => rw [Nat.repeat,String.toList_push,ih,← List.replicate_succ']
  unfold padded
  dsimp only
  rw [String.toList_append,zeros,← String.length_toList,digits]

theorem isoNumber_padded (width : Nat) (n : Int) : isoNumber (padded width n).toList = n.natAbs := by
  unfold isoNumber
  rw [toList_padded,Nat.ofDigitChars_append,Nat.ofDigitChars_replicate_zero,Nat.mul_zero,
    Nat.ofDigitChars_ten_toDigits]

theorem length_padded {width : Nat} {n : Int} (some : 0 < width) (fits : n.natAbs < 10 ^ width) :
    (padded width n).toList.length = width := by
  have short := (Nat.length_toDigits_le_iff (b := 10) (by decide) some).mpr fits
  rw [toList_padded,List.length_append,List.length_replicate]
  omega

theorem isoYear_padded (width : Nat) (n : Int) : isoYear (padded width n).toList = n.natAbs := by
  have unsigned : ∀ c ∈ (padded width n).toList, c.isDigit := by
    intro c member
    rw [toList_padded,List.mem_append] at member
    obtain zero | digit := member
    · rw [List.eq_of_mem_replicate zero]
      decide
    · exact Nat.isDigit_of_mem_toDigits (by decide) (by decide) digit
  rw [← isoNumber_padded width n]
  unfold isoYear
  split
  next digits same => exact absurd (unsigned '-' (by simp [same])) (by decide)
  next digits same => exact absurd (unsigned '+' (by simp [same])) (by decide)
  next => rfl

def isoYears (year : Int) : String :=
  if 0 ≤ year ∧ year ≤ 9999 then padded 4 year else (if year < 0 then "-" else "+") ++ padded 6 year

theorem isoYear_isoYears (year : Int) : isoYear (isoYears year).toList = year := by
  unfold isoYears
  split_ifs with short before
  · rw [isoYear_padded]
    omega
  · have read : isoYear ("-" ++ padded 6 year).toList = -isoNumber (padded 6 year).toList := by
      rw [String.toList_append]
      rfl
    rw [read,isoNumber_padded]
    omega
  · have read : isoYear ("+" ++ padded 6 year).toList = isoNumber (padded 6 year).toList := by
      rw [String.toList_append]
      rfl
    rw [read,isoNumber_padded]
    omega

theorem toList_toIsoString (instant : Int) : (toIsoString instant).toList =
    (isoYears (civilDate (instant / 86400000)).1).toList ++
      ('-' :: (padded 2 (civilDate (instant / 86400000)).2.1).toList ++
        '-' :: (padded 2 (civilDate (instant / 86400000)).2.2).toList ++
        'T' :: (padded 2 (instant % 86400000 / 3600000)).toList ++
        ':' :: (padded 2 (instant % 86400000 / 60000 % 60)).toList ++
        ':' :: (padded 2 (instant % 86400000 / 1000 % 60)).toList ++
        '.' :: (padded 3 (instant % 86400000 % 1000)).toList ++ ['Z']) := by
  unfold toIsoString isoYears
  simp [String.toList_append,toString]

theorem readIsoString_split {text : String} {years : List Char} {m₁ m₂ d₁ d₂ h₁ h₂ n₁ n₂ s₁ s₂ l₁ l₂ l₃ : Char}
    (split : text.toList =
      years ++ ['-',m₁,m₂,'-',d₁,d₂,'T',h₁,h₂,':',n₁,n₂,':',s₁,s₂,'.',l₁,l₂,l₃,'Z']) :
    readIsoString text = civilDays (isoYear years) (isoNumber [m₁,m₂]) (isoNumber [d₁,d₂]) * 86400000 +
      isoNumber [h₁,h₂] * 3600000 + isoNumber [n₁,n₂] * 60000 + isoNumber [s₁,s₂] * 1000 +
      isoNumber [l₁,l₂,l₃] := by
  have front : text.toList.length - 20 = years.length := by
    rw [split,List.length_append]
    exact Nat.add_sub_cancel _ _
  unfold readIsoString
  dsimp only
  rw [front,split,List.take_left,List.drop_left]
  rfl

theorem pair_padded {n : Int} (low : 0 ≤ n) (high : n < 100) :
    ∃ a b : Char, (padded 2 n).toList = [a,b] ∧ isoNumber [a,b] = n := by
  have fits : (padded 2 n).toList.length = 2 := length_padded (by decide) (by omega)
  obtain ⟨a,b,spelt⟩ := List.length_eq_two.mp fits
  refine ⟨a,b,spelt,?_⟩
  rw [← spelt,isoNumber_padded]
  omega

theorem readIsoString_toIsoString (instant : Int) : readIsoString (toIsoString instant) = instant := by
  obtain ⟨january,december,first,last⟩ := civilDate_bounds (instant / 86400000)
  obtain ⟨m₁,m₂,months,month⟩ := pair_padded (n := (civilDate (instant / 86400000)).2.1) (by omega) (by omega)
  obtain ⟨d₁,d₂,days,day⟩ := pair_padded (n := (civilDate (instant / 86400000)).2.2) (by omega) (by omega)
  obtain ⟨h₁,h₂,hours,hour⟩ := pair_padded (n := instant % 86400000 / 3600000) (by omega) (by omega)
  obtain ⟨n₁,n₂,minutes,minute⟩ := pair_padded (n := instant % 86400000 / 60000 % 60) (by omega) (by omega)
  obtain ⟨s₁,s₂,seconds,second⟩ := pair_padded (n := instant % 86400000 / 1000 % 60) (by omega) (by omega)
  have fits : (padded 3 (instant % 86400000 % 1000)).toList.length = 3 := length_padded (by decide) (by omega)
  obtain ⟨l₁,l₂,l₃,millis⟩ := List.length_eq_three.mp fits
  have milli : isoNumber [l₁,l₂,l₃] = instant % 86400000 % 1000 := by
    rw [← millis,isoNumber_padded]
    omega
  have spelt := toList_toIsoString instant
  rw [months,days,hours,minutes,seconds,millis] at spelt
  rw [readIsoString_split spelt,isoYear_isoYears,month,day,hour,minute,second,milli,civilDays_civilDate]
  omega

theorem parseDate_toIsoString (otherwise : String → Option Int) {instant : Int}
    (held : instant.natAbs ≤ maxDate) : parseDate otherwise (toIsoString instant) = some instant := by
  unfold parseDate
  dsimp only
  rw [readIsoString_toIsoString]
  exact if_pos ⟨rfl,held⟩

theorem toIsoString_ne_empty (instant : Int) : toIsoString instant ≠ "" := by
  intro empty
  have spelt := toList_toIsoString instant
  rw [empty] at spelt
  simp at spelt

end MessagingPlatform

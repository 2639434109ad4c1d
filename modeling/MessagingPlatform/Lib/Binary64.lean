import Mathlib.Algebra.Order.Floor.Ring
import Mathlib.Data.Int.Log
import Mathlib.Data.Rat.Floor
import Mathlib.Tactic.Linarith
import Mathlib.Tactic.NormNum
import Mathlib.Tactic.Ring

/-! Rational numbers rounded to binary64: 53 significant bits above a smallest step of 2^(−1074), and
of two numbers that are equally near the one with the even significand. -/
namespace Binary64

def nearest (x : ℚ) : ℤ :=
  if x - ⌊x⌋ < 1 / 2 ∨ (x - ⌊x⌋ = 1 / 2 ∧ ⌊x⌋ % 2 = 0) then ⌊x⌋ else ⌊x⌋ + 1

theorem nearest_le (x : ℚ) (n : ℤ) : |(nearest x : ℚ) - x| ≤ |(n : ℚ) - x| := by
  have below := Int.floor_le x
  have above := Int.lt_floor_add_one x
  -- the two neighbours are the only candidates
  have apart : |(n : ℚ) - x| ≥ x - ⌊x⌋ ∨ |(n : ℚ) - x| ≥ ⌊x⌋ + 1 - x := by
    rcases lt_or_ge ⌊x⌋ n with later | earlier
    · have next : ((⌊x⌋ : ℚ) + 1) ≤ n := by exact_mod_cast later
      right
      rw [abs_of_nonneg (by linarith)]
      linarith
    · have least : (n : ℚ) ≤ ⌊x⌋ := by exact_mod_cast earlier
      left
      rw [abs_of_nonpos (by linarith)]
      linarith
  unfold nearest
  split_ifs with lower
  · have half : x - ⌊x⌋ ≤ 1 / 2 := by
      obtain less | ⟨middle,-⟩ := lower <;> linarith
    rw [abs_of_nonpos (by linarith)]
    obtain near | near := apart <;> linarith
  · have half : 1 / 2 ≤ x - ⌊x⌋ := by
      by_contra less
      exact lower (.inl (not_le.mp less))
    push_cast
    rw [abs_of_nonneg (by linarith)]
    obtain near | near := apart <;> linarith

theorem nearest_intCast (n : ℤ) : nearest n = n := by
  have exact := nearest_le n n
  rw [sub_self,abs_zero] at exact
  exact_mod_cast sub_eq_zero.mp (abs_eq_zero.mp (le_antisymm exact (abs_nonneg _)))

/-- The weight of the last bit of a number's significand. -/
def exponent (q : ℚ) : ℤ := max (-1074) (Int.log 2 |q| - 52)

/-- The number as binary64 rounds it, except that no number is too large. -/
def round (q : ℚ) : ℚ := nearest (q / 2 ^ exponent q) * 2 ^ exponent q

/-- The result of an operation with this exact value; `none` is an overflow. -/
def round? (q : ℚ) : Option ℚ := if |round q| < 2 ^ 1024 then some (round q) else none

def Representable (k : ℚ) : Prop := ∃ significand exponent : ℤ, -1074 ≤ exponent ∧ |significand| < 2 ^ 53 ∧
  k = significand * 2 ^ exponent

theorem step_pos (exponent : ℤ) : (0 : ℚ) < 2 ^ exponent := zpow_pos two_pos exponent

/-- No multiple of the step of a number is nearer to it. -/
theorem round_step (q : ℚ) (n : ℤ) : |round q - q| ≤ |n * 2 ^ exponent q - q| := by
  have step := step_pos (exponent q)
  have scaled : ∀ m : ℤ, |m * 2 ^ exponent q - q| = |m - q / 2 ^ exponent q| * 2 ^ exponent q := by
    intro m
    rw [← abs_of_pos step,← abs_mul,abs_of_pos step,sub_mul,div_mul_cancel₀ _ step.ne']
  rw [round,scaled,scaled]
  exact mul_le_mul_of_nonneg_right (nearest_le _ n) step.le

/-- Above the smallest step, the step is what leaves 53 bits. -/
theorem exponent_bound {q : ℚ} (nonzero : q ≠ 0) (within : -1074 < exponent q) :
    2 ^ (exponent q + 52) ≤ |q| := by
  have above : exponent q + 52 = Int.log 2 |q| := by
    unfold exponent at within ⊢
    omega
  rw [above]
  exact_mod_cast Int.zpow_log_le_self one_lt_two (abs_pos.mpr nonzero)

theorem Representable.multiple {k : ℚ} {step significand exponent : ℤ} (made : k = significand * 2 ^ exponent)
    (coarse : step ≤ exponent) : ∃ n : ℤ, k = n * 2 ^ step := by
  obtain ⟨shift,rfl⟩ := Int.exists_add_of_le coarse
  refine ⟨significand * 2 ^ shift,?_⟩
  rw [made,zpow_add₀ two_ne_zero,zpow_natCast]
  push_cast
  ring

/-- Rounding finds the nearest representable number. -/
theorem round_nearest (q : ℚ) {k : ℚ} (representable : Representable k) : |round q - q| ≤ |k - q| := by
  obtain ⟨significand,own,least,bits,made⟩ := representable
  rcases le_or_gt (exponent q) own with coarse | fine
  · obtain ⟨n,rfl⟩ := Representable.multiple made coarse
    exact round_step q n
  rcases eq_or_ne q 0 with rfl | nonzero
  · have exact : round 0 = 0 := by simpa using round_step 0 0
    rw [exact,sub_self,abs_zero]
    exact abs_nonneg _
  -- a number with a finer step is below the power of two that starts the binade of `q`
  have start := exponent_bound nonzero (by omega)
  have small : |k| ≤ 2 ^ (exponent q + 52) := by
    have significant : |(significand : ℚ)| ≤ 2 ^ 53 := by exact_mod_cast bits.le
    calc |k| = |(significand : ℚ)| * 2 ^ own := by rw [made,abs_mul,abs_of_pos (step_pos own)]
      _ ≤ 2 ^ 53 * 2 ^ own := mul_le_mul_of_nonneg_right significant (step_pos own).le
      _ = 2 ^ (own + 53) := by rw [zpow_add₀ two_ne_zero,mul_comm]; norm_num
      _ ≤ 2 ^ (exponent q + 52) := zpow_le_zpow_right₀ one_le_two (by omega)
  have first : ((2 ^ 52 : ℤ) : ℚ) * 2 ^ exponent q = 2 ^ (exponent q + 52) := by
    rw [zpow_add₀ two_ne_zero,mul_comm]
    norm_num
  obtain ⟨least,most⟩ := abs_le.mp small
  rcases lt_or_ge q 0 with negative | positive
  · rw [abs_of_neg negative] at start
    have between := round_step q (-(2 ^ 52))
    rw [Int.cast_neg,neg_mul,first] at between
    have order : -2 ^ (exponent q + 52) - q ≤ k - q := by linarith
    rw [abs_of_nonneg (by linarith : 0 ≤ -2 ^ (exponent q + 52) - q)] at between
    exact between.trans (order.trans (le_abs_self _))
  · rw [abs_of_nonneg positive] at start
    have between := round_step q (2 ^ 52)
    rw [first] at between
    have order : -(2 ^ (exponent q + 52) - q) ≤ -(k - q) := by linarith
    rw [abs_of_nonpos (by linarith : 2 ^ (exponent q + 52) - q ≤ 0)] at between
    exact between.trans (order.trans (neg_le_abs _))

theorem round_eq {q : ℚ} (representable : Representable q) : round q = q := by
  have exact := round_nearest q representable
  rw [sub_self,abs_zero] at exact
  exact sub_eq_zero.mp (abs_eq_zero.mp (le_antisymm exact (abs_nonneg _)))

theorem le_round {k q : ℚ} (representable : Representable k) (below : k ≤ q) : k ≤ round q := by
  by_contra under
  have near := round_nearest q representable
  rw [abs_of_nonpos (by linarith),abs_of_nonpos (by linarith)] at near
  linarith

theorem round_le {k q : ℚ} (representable : Representable k) (above : q ≤ k) : round q ≤ k := by
  by_contra larger
  have near := round_nearest q representable
  rw [abs_of_nonneg (by linarith),abs_of_nonneg (by linarith)] at near
  linarith

theorem representable_of_le {significand exponent : ℤ} (least : -1074 ≤ exponent) (bits : |significand| ≤ 2 ^ 53) :
    Representable (significand * 2 ^ exponent) := by
  rcases lt_or_eq_of_le bits with less | full
  · exact ⟨significand,exponent,least,less,rfl⟩
  · refine ⟨significand / 2,exponent + 1,by omega,?_,?_⟩ <;>
      rcases abs_eq (by norm_num) |>.mp full with rfl | rfl
    · norm_num
    · norm_num
    · rw [zpow_add₀ two_ne_zero]
      norm_num
      ring
    · rw [zpow_add₀ two_ne_zero]
      norm_num
      ring

theorem representable_round (q : ℚ) : Representable (round q) := by
  apply representable_of_le (le_max_left _ _)
  have above : |q| < 2 ^ (exponent q + 53) := by
    have log : |q| < 2 ^ (Int.log 2 |q| + 1) := by exact_mod_cast Int.lt_zpow_succ_log_self one_lt_two |q|
    refine log.trans_le (zpow_le_zpow_right₀ one_le_two ?_)
    unfold exponent
    omega
  have scaled : |q / 2 ^ exponent q| < 2 ^ 53 := by
    rw [abs_div,abs_of_pos (step_pos _),div_lt_iff₀ (step_pos _)]
    rw [zpow_add₀ two_ne_zero,mul_comm] at above
    exact_mod_cast above
  obtain ⟨least,most⟩ := abs_lt.mp scaled
  have floor : -(2 ^ 53) ≤ ⌊q / 2 ^ exponent q⌋ ∧ ⌊q / 2 ^ exponent q⌋ < 2 ^ 53 := by
    refine ⟨Int.le_floor.mpr ?_,Int.floor_lt.mpr ?_⟩ <;> push_cast <;> linarith
  rw [abs_le]
  unfold nearest
  split <;> omega

theorem representable_intCast {n : ℤ} (bits : |n| ≤ 2 ^ 53) : Representable n := by
  have whole := @representable_of_le n 0 (by norm_num) bits
  rwa [zpow_zero,mul_one] at whole

theorem round_intCast {n : ℤ} (bits : |n| ≤ 2 ^ 53) : round n = n := round_eq (representable_intCast bits)

/-- The rounding of a whole number is whole. -/
theorem round_whole (n : ℤ) : ∃ m : ℤ, round n = m := by
  rcases le_or_gt 0 (exponent n) with coarse | fine
  · obtain ⟨shift,same⟩ := Int.eq_ofNat_of_zero_le coarse
    refine ⟨nearest (n / 2 ^ exponent (n : ℚ)) * 2 ^ shift,?_⟩
    rw [round,same]
    push_cast
    rfl
  · obtain ⟨shift,same⟩ := Int.eq_ofNat_of_zero_le (Int.neg_nonneg_of_nonpos fine.le)
    have divided : (n : ℚ) / 2 ^ exponent (n : ℚ) = ((n * 2 ^ shift : ℤ) : ℚ) := by
      rw [div_eq_mul_inv,← zpow_neg,same]
      push_cast
      rfl
    refine ⟨n,?_⟩
    rw [round,divided,nearest_intCast,← divided,div_mul_cancel₀ _ (step_pos _).ne']

/-- The representable numbers keep away from one. -/
theorem Representable.le_of_lt_one {q : ℚ} (representable : Representable q) (less : q < 1) :
    q ≤ 1 - 2 ^ (-53 : ℤ) := by
  obtain ⟨significand,own,-,bits,made⟩ := representable
  rcases le_or_gt (-53) own with coarse | fine
  · obtain ⟨n,rfl⟩ := Representable.multiple made coarse
    have below : n < 2 ^ 53 := by
      have scaled : (n : ℚ) < 2 ^ 53 := by
        norm_num at less ⊢
        linarith
      exact_mod_cast scaled
    have most : (n : ℚ) ≤ 2 ^ 53 - 1 := by exact_mod_cast Int.le_sub_one_of_lt below
    norm_num at most ⊢
    linarith
  · have significant : (significand : ℚ) ≤ 2 ^ 53 := by exact_mod_cast (le_abs_self _).trans bits.le
    have small : (2 : ℚ) ^ own ≤ 2 ^ (-54 : ℤ) := zpow_le_zpow_right₀ one_le_two (by omega)
    have half : q ≤ 2 ^ 53 * 2 ^ (-54 : ℤ) := by
      rw [made]
      exact mul_le_mul significant small (step_pos own).le (by norm_num)
    norm_num at half ⊢
    linarith

end Binary64

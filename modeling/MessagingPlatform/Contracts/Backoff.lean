import Mathlib.Tactic.NormNum
import Mathlib.Tactic.Zify
import MessagingPlatform.Contracts.Topology

/-! The retry delays of counted attempts. Both retry paths count their attempts from one, so the
delay of an attempt is a whole number of milliseconds. -/
namespace MessagingPlatform

def backoffMs (attempt : Nat) : Nat := min (2000 * 2 ^ (attempt - 1)) 30000

theorem backoffMs_mono {earlier later : Nat} (order : earlier ≤ later) :
    backoffMs earlier ≤ backoffMs later := by
  have exponents : earlier - 1 ≤ later - 1 := by omega
  have powers : 2 ^ (earlier - 1) ≤ 2 ^ (later - 1) := Nat.pow_le_pow_right (by decide) exponents
  unfold backoffMs
  omega

theorem backoffMs_bounds (attempt : Nat) : 2000 ≤ backoffMs attempt ∧ backoffMs attempt ≤ 30000 := by
  have power : 0 < 2 ^ (attempt - 1) := Nat.pow_pos (by decide)
  unfold backoffMs
  omega

/-- The first four delays are exact. -/
theorem retryDelayMs_exact (engine : Engine) {exponent : Nat} (small : exponent ≤ 3) :
    retryDelayMs engine (.finite (exponent + 1 : Nat)) = .finite (2000 * 2 ^ exponent : Nat) := by
  have back : (((exponent + 1 : Nat) : ℚ) + -1) = (exponent : ℚ) := by push_cast; ring
  have power : ((2 : ℚ) ^ (exponent : Int)) = ((2 ^ exponent : Nat) : ℚ) := by push_cast; rfl
  have bound : 2 ^ exponent ≤ 2 ^ 3 := Nat.pow_le_pow_right (by decide) small
  have scaled : RetryConfig.baseDelayMs * ((2 ^ exponent : Nat) : ℚ) = ((2000 * 2 ^ exponent : Nat) : ℚ) := by
    push_cast
    rfl
  have within : ((2000 * 2 ^ exponent : Nat) : ℚ) ≤ 30000 := by
    exact_mod_cast (by omega : 2000 * 2 ^ exponent ≤ 30000)
  unfold retryDelayMs
  rw [JsNumber.add,back,JsNumber.rounded_natCast (by omega),← Int.cast_natCast exponent,Engine.powTwo_intCast,power,
    JsNumber.rounded_natCast (by omega),JsNumber.scale,scaled,JsNumber.rounded_natCast (by omega)]
  exact congrArg JsNumber.finite (if_pos within)

/-- From the fifth attempt on, the delay is the cap, however the exponent is rounded. -/
theorem retryDelayMs_capped (engine : Engine) {attempt : Nat} (late : 5 ≤ attempt) :
    retryDelayMs engine (.finite attempt) = .finite RetryConfig.maxDelayMs := by
  have exact : ((attempt : ℚ) + -1) = ((attempt - 1 : Int) : ℚ) := by push_cast; ring
  have four : Binary64.Representable 4 := ⟨4,0,by decide,by decide,by norm_num⟩
  have sixteen : Binary64.Representable 16 := ⟨16,0,by decide,by decide,by norm_num⟩
  have exponent : (JsNumber.rounded ((attempt - 1 : Int) : ℚ)).AtLeast 4 := by
    refine JsNumber.rounded_atLeast four (by norm_num) ?_
    exact_mod_cast (by omega : (4 : Int) ≤ attempt - 1)
  have power : (engine.powTwo ((JsNumber.finite attempt).add (.finite (-1)))).AtLeast 16 := by
    rw [JsNumber.add,exact]
    obtain ⟨m,whole⟩ | overflow := JsNumber.rounded_whole (attempt - 1)
    · rw [whole] at exponent
      have most : (4 : Int) ≤ m := by exact_mod_cast (show (4 : ℚ) ≤ m from exponent)
      rw [whole,Engine.powTwo_intCast]
      refine JsNumber.rounded_atLeast sixteen (by norm_num) ?_
      calc (16 : ℚ) = 2 ^ (4 : Int) := by norm_num
        _ ≤ 2 ^ m := zpow_le_zpow_right₀ one_le_two most
    · rw [overflow] at exponent ⊢
      have positive : decide (((attempt - 1 : Int) : ℚ) < 0) = false := exponent
      rw [positive]
      rfl
  have scaled := @JsNumber.AtLeast.scale 16 RetryConfig.baseDelayMs _ power
    ⟨32000,0,by decide,by decide,by norm_num [RetryConfig.baseDelayMs]⟩ (by decide) (by norm_num)
  exact scaled.min_eq (by norm_num [RetryConfig.baseDelayMs,RetryConfig.maxDelayMs])

theorem retryDelayMs_backoff (engine : Engine) {attempt : Nat} (counted : 1 ≤ attempt) :
    retryDelayMs engine (.finite attempt) = .finite (backoffMs attempt) := by
  obtain ⟨exponent,rfl⟩ := Nat.exists_eq_add_of_le' counted
  unfold backoffMs
  rw [Nat.add_sub_cancel]
  rcases Nat.lt_or_ge 3 exponent with late | early
  · have power : 2 ^ 4 ≤ 2 ^ exponent := Nat.pow_le_pow_right (by decide) late
    rw [retryDelayMs_capped engine (by omega),Nat.min_eq_right (by omega)]
    norm_num [RetryConfig.maxDelayMs]
  · have power : 2 ^ exponent ≤ 2 ^ 3 := Nat.pow_le_pow_right (by decide) early
    rw [retryDelayMs_exact engine early,Nat.min_eq_left (by omega)]

theorem print_retryDelayMs (engine : Engine) {attempt : Nat} (counted : 1 ≤ attempt) :
    engine.print (retryDelayMs engine (.finite attempt)) = toString (backoffMs attempt) := by
  rw [retryDelayMs_backoff engine counted]
  exact engine.print_natCast ((backoffMs_bounds attempt).2.trans (by decide))

theorem addMs_whole (instant : Int) (delay : Nat) : addMs instant (.finite delay) = some (instant + delay) := by
  have whole : ((instant : ℚ) + (delay : ℚ)) = ((instant + delay : Int) : ℚ) := by push_cast; rfl
  change some (Int.tdiv ((instant : ℚ) + (delay : ℚ)).num ((instant : ℚ) + (delay : ℚ)).den) = _
  rw [whole,Rat.num_intCast,Rat.den_intCast]
  simp

theorem addMs_backoff (engine : Engine) (instant : Int) {attempt : Nat} (counted : 1 ≤ attempt) :
    addMs instant (retryDelayMs engine (.finite attempt)) = some (instant + backoffMs attempt) := by
  rw [retryDelayMs_backoff engine counted,addMs_whole]

end MessagingPlatform

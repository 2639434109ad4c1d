import Mathlib.Tactic.Linarith
import MessagingPlatform.Broker.RetryDelays
import MessagingPlatform.Consumer.Failures
import MessagingPlatform.Consumer.Requests

/-! The expiration of the retry copies: what comes of the counts that a header may hold, all of which
`readRetryCount` accepts. -/
namespace MessagingPlatform.Broker
open Consumer (Request Reply Delivery Environment Event sampleReply sampleEngine)
open Consumer.MessagingController (readRetryCount handleMessage handleValid handleFailure scheduleRetry)
open Consumer.RetryPublisherService (publishToRetry)

def ValidExpiration (copy : Publication) : Prop :=
  ∃ ms : Nat, RetryConfig.baseDelayMs ≤ ms ∧ ms ≤ RetryConfig.maxDelayMs ∧ copy.expiration = some (toString ms)

/-- The exponent that the handler and the back-off make of a count: the sum and the difference both round. -/
def backoffExponent (count : JsNumber) : JsNumber := (count.add (.finite 1)).add (.finite (-1))

/-- A power whose product with the base delay is whole as it is rounded, or beyond the cap. -/
def FactorInBounds : JsNumber → Prop
  | .finite factor => 15 ≤ factor ∨ (1 ≤ factor ∧ (Binary64.round (2000 * factor)).den = 1)
  | .infinity negative => negative = false
  | .nan => False

/-- Exponents that are whole from zero on, and those fractions that the engine raises to a power like that. -/
def CountInBounds (engine : Engine) (count : JsNumber) : Prop :=
  match backoffExponent count with
  | .finite exponent => if exponent.den = 1 then 0 ≤ exponent else
      FactorInBounds (engine.fractionalPower exponent).binary64
  | .infinity negative => negative = false
  | .nan => False

/-- The text of a number reads back as the number, so no other prints like a whole number up to 2^53. -/
def PrintsApart (engine : Engine) : Prop :=
  ∀ (value : ℚ) (n : Nat), n ≤ 2 ^ 53 → engine.printFloating value = toString n → value = n

theorem expirationMs?_negative (n : Nat) : expirationMs? (toString (Int.negSucc n)) = none := by
  have signed : toString (Int.negSucc n) = "-" ++ toString (n + 1) := rfl
  unfold expirationMs?
  rw [if_neg]
  rintro ⟨-,digits⟩
  rw [signed,String.toList_append,List.all_append,Bool.and_eq_true] at digits
  exact absurd digits.1 (by decide)

theorem print_eq_toString_iff {engine : Engine} (prints : PrintsApart engine) {value : JsNumber} {ms : Nat}
    (bits : ms ≤ 2 ^ 53) : engine.print value = toString ms ↔ value = .finite ms := by
  constructor
  · intro printed
    have read := (congrArg expirationMs? printed).trans (expirationMs?_toString ms)
    cases value with
    | nan => cases (by decide : expirationMs? "NaN" = none).symm.trans read
    | infinity negative =>
      cases negative with
      | false => cases (by decide : expirationMs? "Infinity" = none).symm.trans read
      | true => cases (by decide : expirationMs? "-Infinity" = none).symm.trans read
    | finite value =>
      unfold Engine.print at printed read
      dsimp only at printed read
      split_ifs at printed read with whole
      · obtain ⟨num,rfl⟩ : ∃ num : Int, value = num := ⟨value.num,(Rat.den_eq_one_iff value).mp whole.1 |>.symm⟩
        rw [Rat.num_intCast] at read
        cases num with
        | ofNat n =>
          have same := (expirationMs?_toString n).symm.trans read
          obtain rfl := Option.some.inj same
          rfl
        | negSucc n => cases (expirationMs?_negative n).symm.trans read
      · rw [prints value ms bits printed]
  · rintro rfl
    exact engine.print_natCast bits

def DelayInBounds (value : JsNumber) : Prop :=
  ∃ ms : Nat, RetryConfig.baseDelayMs ≤ ms ∧ ms ≤ RetryConfig.maxDelayMs ∧ value = .finite ms

theorem delayInBounds_finite {value : ℚ} :
    DelayInBounds (.finite value) ↔ value.den = 1 ∧ 2000 ≤ value ∧ value ≤ 30000 := by
  constructor
  · rintro ⟨ms,least,most,same⟩
    obtain rfl := JsNumber.finite.inj same
    exact ⟨Rat.den_natCast _,least,most⟩
  · rintro ⟨whole,least,most⟩
    obtain ⟨num,rfl⟩ : ∃ num : Int, value = num := ⟨value.num,((Rat.den_eq_one_iff value).mp whole).symm⟩
    have positive : 0 ≤ num := by
      have rational : (0 : ℚ) ≤ num := by linarith
      exact_mod_cast rational
    obtain ⟨ms,rfl⟩ := Int.eq_ofNat_of_zero_le positive
    exact ⟨ms,by simpa [RetryConfig.baseDelayMs] using least,by simpa [RetryConfig.maxDelayMs] using most,by simp⟩

/-- The product of the base delay with a number below one stays below the base delay. -/
theorem round_base_lt {factor : ℚ} (representable : Binary64.Representable factor) (less : factor < 1) :
    Binary64.round (2000 * factor) < 2000 := by
  have away := representable.le_of_lt_one less
  have neighbour : Binary64.Representable (2000 - 1 / 4398046511104) :=
    ⟨2000 * 2 ^ 42 - 1,-42,by decide,by decide,by norm_num⟩
  norm_num at away
  rcases le_or_gt (2000 * factor) (2000 - 1 / 4398046511104) with under | above
  · exact (Binary64.round_le neighbour under).trans_lt (by norm_num)
  · -- the product is nearer to the number before 2000 than to 2000
    have near := Binary64.round_nearest (2000 * factor) neighbour
    rw [abs_of_neg (by linarith : 2000 - 1 / 4398046511104 - 2000 * factor < 0)] at near
    have least := (le_abs_self _).trans near
    linarith

theorem delayInBounds_capped {factor : JsNumber}
    (representable : ∀ x, factor = .finite x → Binary64.Representable x) :
    DelayInBounds ((factor.scale RetryConfig.baseDelayMs).min (.finite RetryConfig.maxDelayMs)) ↔
      FactorInBounds factor := by
  have capped : DelayInBounds (.finite RetryConfig.maxDelayMs) :=
    delayInBounds_finite.mpr ⟨by decide,by norm_num [RetryConfig.maxDelayMs],le_refl _⟩
  have unmet : ∀ value : JsNumber, (∀ x, value ≠ .finite x) → ¬ DelayInBounds value := by
    rintro value infinite ⟨ms,_,_,same⟩
    exact infinite ms same
  cases factor with
  | nan => exact iff_of_false (unmet _ (fun _ => JsNumber.noConfusion)) False.elim
  | infinity negative =>
    cases negative with
    | true => exact iff_of_false (unmet _ (fun _ => JsNumber.noConfusion)) Bool.noConfusion
    | false => exact iff_of_true capped rfl
  | finite factor =>
    have base : Binary64.Representable 2000 := ⟨2000,0,by decide,by decide,by norm_num⟩
    have cap : Binary64.Representable 30000 := ⟨30000,0,by decide,by decide,by norm_num⟩
    have scaled : (JsNumber.finite factor).scale RetryConfig.baseDelayMs = .rounded (2000 * factor) := rfl
    rw [scaled]
    rcases le_or_gt 15 factor with beyond | within
    · have above : (JsNumber.rounded (2000 * factor)).AtLeast 30000 :=
        JsNumber.rounded_atLeast cap (by norm_num) (by linarith)
      rw [above.min_eq (by norm_num [RetryConfig.maxDelayMs])]
      exact iff_of_true capped (.inl beyond)
    have most := Binary64.round_le cap (by linarith : 2000 * factor ≤ 30000)
    rcases le_or_gt 1 factor with large | small
    · have least := Binary64.le_round base (by linarith : 2000 ≤ 2000 * factor)
      have bits : |Binary64.round (2000 * factor)| ≤ 2 ^ 53 := by
        rw [abs_of_nonneg (by linarith)]
        linarith
      have kept : (JsNumber.finite (Binary64.round (2000 * factor))).min (.finite RetryConfig.maxDelayMs) =
          .finite (Binary64.round (2000 * factor)) := congrArg JsNumber.finite (if_pos most)
      rw [JsNumber.rounded_finite bits,kept,delayInBounds_finite]
      constructor
      · rintro ⟨whole,-,-⟩
        exact .inr ⟨large,whole⟩
      · rintro (beyond | ⟨-,whole⟩)
        · exact absurd beyond (not_le.mpr within)
        · exact ⟨whole,least,most⟩
    · have under := round_base_lt (representable factor rfl) small
      refine iff_of_false ?_ ?_
      · obtain exact | ⟨overflow,infinite⟩ := JsNumber.rounded_cases (2000 * factor)
        · have kept : (JsNumber.finite (Binary64.round (2000 * factor))).min (.finite RetryConfig.maxDelayMs) =
              .finite (Binary64.round (2000 * factor)) := congrArg JsNumber.finite (if_pos most)
          rw [exact,kept,delayInBounds_finite]
          rintro ⟨-,least,-⟩
          linarith
        · rw [infinite]
          rcases lt_or_ge (2000 * factor) 0 with negative | positive
          · rw [decide_eq_true negative]
            exact unmet _ (fun _ => JsNumber.noConfusion)
          · have zero := Binary64.le_round ⟨0,0,by decide,by decide,by simp⟩ positive
            have large : (2000 : ℚ) < 2 ^ 1024 := (by norm_num : (2000 : ℚ) < 2 ^ 11).trans
              (pow_lt_pow_right₀ one_lt_two (by decide))
            rw [abs_of_nonneg zero] at overflow
            exact absurd (overflow.trans under.le) (not_le.mpr large)
      · rintro (beyond | ⟨large,-⟩)
        · exact absurd beyond (not_le.mpr within)
        · exact absurd large (not_le.mpr small)

theorem powTwo_in_bounds (n : Int) : FactorInBounds (.rounded ((2 : ℚ) ^ n)) ↔ 0 ≤ n := by
  rcases lt_or_ge n 0 with negative | positive
  · have half : Binary64.Representable (1 / 2) := ⟨1,-1,by decide,by decide,by norm_num⟩
    have small : (2 : ℚ) ^ n ≤ 1 / 2 := by
      calc (2 : ℚ) ^ n ≤ 2 ^ (-1 : Int) := zpow_le_zpow_right₀ one_le_two (by omega)
        _ = 1 / 2 := by norm_num
    have most := Binary64.round_le half small
    have least := Binary64.le_round ⟨0,0,by decide,by decide,by simp⟩ (zpow_pos two_pos n).le
    rw [JsNumber.rounded_finite (by rw [abs_of_nonneg least]; linarith)]
    refine iff_of_false ?_ (not_le.mpr negative)
    rintro (beyond | ⟨large,-⟩) <;> linarith
  · obtain ⟨power,rfl⟩ := Int.eq_ofNat_of_zero_le positive
    have exact : (2 : ℚ) ^ ((power : Nat) : Int) = ((2 ^ power : Int) : ℚ) := by push_cast; rfl
    have one : (JsNumber.rounded ((2 : ℚ) ^ ((power : Nat) : Int))).AtLeast 1 :=
      JsNumber.rounded_atLeast ⟨1,0,by decide,by decide,by norm_num⟩ one_pos.le (one_le_pow₀ one_le_two)
    refine iff_of_true ?_ positive
    obtain ⟨m,whole⟩ | overflow := JsNumber.rounded_whole (2 ^ power)
    · rw [exact,whole] at one ⊢
      obtain ⟨product,rounded⟩ := Binary64.round_whole (2000 * m)
      push_cast at rounded
      exact .inr ⟨one,by rw [rounded]; exact Rat.den_intCast product⟩
    · rw [exact,overflow] at one ⊢
      exact one

theorem delayInBounds_iff (engine : Engine) (count : JsNumber) :
    DelayInBounds (retryDelayMs engine (count.add (.finite 1))) ↔ CountInBounds engine count := by
  have capped := @delayInBounds_capped (engine.powTwo (backoffExponent count))
    (fun x power => Engine.powTwo_representable power)
  refine Iff.trans capped ?_
  unfold CountInBounds
  cases backoffExponent count with
  | nan => exact Iff.rfl
  | infinity negative =>
    cases negative with
    | false => exact Iff.rfl
    | true =>
      have silent : ¬ FactorInBounds (.finite 0) := by norm_num [FactorInBounds]
      exact iff_of_false silent Bool.noConfusion
  | finite exponent =>
    dsimp only
    by_cases whole : exponent.den = 1
    · obtain ⟨n,rfl⟩ : ∃ n : Int, exponent = n := ⟨exponent.num,((Rat.den_eq_one_iff exponent).mp whole).symm⟩
      rw [Engine.powTwo_intCast,if_pos whole,Int.cast_nonneg_iff]
      exact powTwo_in_bounds n
    · unfold Engine.powTwo
      dsimp only
      rw [if_neg whole,if_neg whole]

/-- Whole counts up to 2^53 are in bounds from zero on. -/
theorem countInBounds_intCast (engine : Engine) {count : Int} (bits : |count| < 2 ^ 53) :
    CountInBounds engine (.finite count) ↔ 0 ≤ count := by
  have exponent : backoffExponent (.finite count) = .finite count := by
    have next : |count + 1| ≤ 2 ^ 53 := by
      rw [abs_le]
      rw [abs_lt] at bits
      omega
    have sum := JsNumber.rounded_intCast next
    have difference := JsNumber.rounded_intCast bits.le
    push_cast at sum
    unfold backoffExponent
    rw [JsNumber.add,sum,JsNumber.add]
    rwa [← sub_eq_add_neg,add_sub_cancel_right]
  unfold CountInBounds
  rw [exponent]
  dsimp only
  rw [if_pos (Rat.den_intCast count),Int.cast_nonneg_iff]

def Expires (expiration : Option String) : Request → Prop
  | .publish _ copy => copy.expiration = expiration
  | _ => True

theorem processes_expires {expiration : Option String} {request : Request} (processes : request.processes = true) :
    Expires expiration request := by
  cases request with
  | publish channel copy => cases processes
  | _ => trivial

section handler
variable (engine : Engine) (delivery : Delivery)

def retryExpiration : Option String :=
  some (engine.print (retryDelayMs engine ((readRetryCount delivery.headers).add (.finite 1))))

theorem handleMessage_expires (zod : Schema.Library) :
    (handleMessage engine zod delivery).Asks (Expires (retryExpiration engine delivery)) := by
  have plain : ∀ request : Request, request.plain = true → Expires (retryExpiration engine delivery) request := by
    intro request plain
    cases request with
    | publish channel copy => cases plain
    | _ => trivial
  apply Consumer.handleMessage_asks plain
  · intro headers correlationId
    exact Consumer.publishToRetry_asks correlationId (fun request _ => plain request) (fun _ _ => rfl)
  · intro event normalized eventTypeName _ _
    exact (Consumer.Bookkeeping.processEvent normalized eventTypeName).mono (fun _ => processes_expires)

theorem retryExpiration_valid {copy : Publication} (prints : PrintsApart engine)
    (expires : copy.expiration = retryExpiration engine delivery) :
    ValidExpiration copy ↔ CountInBounds engine (readRetryCount delivery.headers) := by
  rw [← delayInBounds_iff]
  unfold ValidExpiration DelayInBounds
  rw [expires,retryExpiration]
  refine exists_congr fun ms => and_congr_right fun _ => and_congr_right fun most => ?_
  have bits : ms ≤ 2 ^ 53 := by
    have cap : (ms : ℚ) ≤ 30000 := most
    have whole : ms ≤ 30000 := by exact_mod_cast cap
    omega
  rw [Option.some.injEq,print_eq_toString_iff prints bits]

end handler

/-- Every retry copy that any run of the handler publishes has a valid expiration exactly when the count
of the delivery is in bounds. -/
theorem retry_expiration_valid_iff (engine : Engine) (prints : PrintsApart engine) (zod : Schema.Library)
    (delivery : Delivery) (environment : Environment) (event : Event)
    (logged : event ∈ environment.log (handleMessage engine zod delivery)) (channel : Nat) (copy : Publication)
    (publishes : event.request = .publish channel copy) :
    ValidExpiration copy ↔ CountInBounds engine (readRetryCount delivery.headers) := by
  obtain old | expires := environment.asked (handleMessage_expires engine delivery zod) logged
  · cases old
  · rw [publishes] at expires
    exact retryExpiration_valid engine delivery prints expires

def countedDelivery (count : JsNumber) : Delivery :=
  { Consumer.sampleDelivery with headers := [("x-retry-count",.num count)] }

def unreachable : Environment := fun _ request =>
  match request with
  | .connect => (.error ⟨.error,"Error","connect ECONNREFUSED",some "ECONNREFUSED",none⟩,false)
  | request => (.ok (sampleReply request),true)

/-- The one fraction that this engine has to print is 62.5. -/
def printingEngine : Engine := { sampleEngine with printFloating := fun _ => "62.5" }

def published? (event : Event) : Option Publication :=
  match event.request with
  | .publish _ copy => some copy
  | _ => none

def countedCopies (count : JsNumber) : List Publication :=
  (unreachable.log (handleMessage printingEngine sampleLibrary (countedDelivery count))).filterMap published?

theorem mem_countedCopies {count : JsNumber} {copy : Publication} (member : copy ∈ countedCopies count) :
    ∃ event channel, event ∈ unreachable.log (handleMessage printingEngine sampleLibrary (countedDelivery count)) ∧
      event.request = .publish channel copy := by
  obtain ⟨event,logged,published⟩ := List.mem_filterMap.mp member
  refine ⟨event,?_⟩
  unfold published? at published
  split at published
  next channel copy made =>
    obtain rfl := Option.some.inj published
    exact ⟨channel,logged,made⟩
  next => cases published

theorem printingEngine_prints : PrintsApart printingEngine := by
  intro value n _ printed
  have read := (congrArg expirationMs? printed).trans (expirationMs?_toString n)
  cases (by decide : expirationMs? "62.5" = none).symm.trans read

set_option maxRecDepth 4000 in
theorem countedCopies_first : (countedCopies (.finite 1)).length = 1 := by decide

theorem first_copy_valid : ∃ copy ∈ countedCopies (.finite 1), ValidExpiration copy := by
  obtain ⟨copy,single⟩ := List.length_eq_one_iff.mp countedCopies_first
  have member : copy ∈ countedCopies (.finite 1) := by rw [single]; exact List.mem_singleton.mpr rfl
  obtain ⟨event,channel,logged,publishes⟩ := mem_countedCopies member
  have bounds := (@countInBounds_intCast printingEngine 1 (by decide)).mpr (by decide)
  exact ⟨copy,member,(retry_expiration_valid_iff printingEngine printingEngine_prints sampleLibrary
    (countedDelivery (.finite 1)) unreachable event logged channel copy publishes).mpr bounds⟩

set_option maxRecDepth 4000 in
theorem countedCopies_negative : (countedCopies (.finite (-5))).length = 1 := by decide

/-- A count of −5 makes a delay of 62.5 milliseconds. -/
theorem negative_count_invalid : ¬ ∀ copy ∈ countedCopies (.finite (-5)), ValidExpiration copy := by
  intro valid
  obtain ⟨copy,single⟩ := List.length_eq_one_iff.mp countedCopies_negative
  have member : copy ∈ countedCopies (.finite (-5)) := by rw [single]; exact List.mem_singleton.mpr rfl
  obtain ⟨event,channel,logged,publishes⟩ := mem_countedCopies member
  obtain old | expires := unreachable.asked (handleMessage_expires printingEngine _ sampleLibrary) logged
  · cases old
  · rw [publishes] at expires
    have bounds := (retryExpiration_valid printingEngine _ printingEngine_prints expires).mp (valid copy member)
    have negative := (@countInBounds_intCast printingEngine (-5) (by decide)).mp (by exact_mod_cast bounds)
    exact absurd negative (by decide)

end MessagingPlatform.Broker

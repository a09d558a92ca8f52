/-
**Doubles and decimals.**

A double that is not negative is told by its bits, and the midpoints between doubles are in their order
(`midpoint_lt_succ`). A decimal rounds to the last double whose midpoint to the neighbour below it reaches
(`roundsTo_ofBits_iff`), and the search by bits finds that one (`searchBits_eq`).

The shortest decimal of a double rounds to it. So **a double is read back** from its shortest decimal, however
the digits and the exponent are written (`nearest_eq`).
-/

import Mathlib
import PromptChain.Decimal.Nearest

namespace PromptChain.Decimal

/-! ### Bits -/

section Bits

open Float.Model UnpackedFloat

variable (bits : BitVec 64)

theorem toNat_unpackExponent :
    (@unpackExponent .binary64 bits).toNat = bits.toNat / 2 ^ 52 % 2 ^ 11 := by
  simp [unpackExponent, Nat.shiftRight_eq_div_pow]

/-- **The bits of a number make a double with these bits.** -/
theorem toBits_ofBits {bits : UInt64} (finite : bits.toNat / 2 ^ 52 % 2 ^ 11 ≠ 2047) :
    (Float.ofBits bits).toBits = bits := by
  have isNumber : ¬ @isNaNBits .binary64 bits.toBitVec = true := by
    intro isNaN
    rw [isNaNBits, decide_eq_true_eq] at isNaN
    have isRaised := toNat_unpackExponent bits.toBitVec
    rw [isNaN.1] at isRaised
    exact finite isRaised.symm
  exact congrArg UInt64.ofBitVec ((@pack_unpack .binary64 bits.toBitVec (by decide)).trans (if_neg isNumber))

/-- A double that is neither infinite nor undefined has the bits of a number. -/
theorem magnitudeBits_lt {value : Float} (isNumber : (value.isNaN || value.isInf) = false) :
    magnitudeBits value < infiniteBits := by
  have notAll : @unpackExponent .binary64 value.toBits.toBitVec ≠ -1#11 := by
    intro isAll
    have isUnpacked :
        ((unpack .binary64 value.toBits.toBitVec).isNaN || (unpack .binary64 value.toBits.toBitVec).isInf)
        = false := isNumber
    rw [UnpackedFloat.unpack] at isUnpacked
    simp only [if_pos isAll] at isUnpacked
    split at isUnpacked <;> contradiction
  have isRaised := toNat_unpackExponent value.toBits.toBitVec
  have notLast : (@unpackExponent .binary64 value.toBits.toBitVec).toNat ≠ 2047 := fun isLast =>
    notAll (BitVec.eq_of_toNat_eq isLast)
  have inRange := value.toBits.toNat_lt
  have isSame : value.toBits.toBitVec.toNat = value.toBits.toNat := rfl
  simp only [magnitudeBits, infiniteBits, Nat.pow_eq]
  omega

end Bits

/-! ### Comparisons -/

/-- The number that a decimal writes. -/
def Scientific.value (decimal : Scientific) : ℚ := decimal.digits * (10 : ℚ) ^ decimal.exponent

theorem natCast_pow_toNat (base : Nat) (positive : 0 < base) (exponent : Int) :
    ((Nat.pow base exponent.toNat : Nat) : ℚ)
      = (base : ℚ) ^ exponent * (Nat.pow base (-exponent).toNat : Nat) := by
  have nonzero : (base : ℚ) ≠ 0 := by positivity
  rw [Nat.pow_eq, Nat.pow_eq, Nat.cast_pow, Nat.cast_pow, ← zpow_natCast, ← zpow_natCast, ← zpow_add₀ nonzero]
  congr 1
  omega

section Compare

variable (a : Nat) (tens : Int) (b : Nat) (twos : Int)

/-- Both sides of a comparison are scaled alike. -/
theorem exists_scale : ∃ scale : ℚ, 0 < scale ∧
    ((a * Nat.pow 10 tens.toNat * Nat.pow 2 (-twos).toNat : Nat) : ℚ) = a * (10 : ℚ) ^ tens * scale ∧
    ((b * Nat.pow 2 twos.toNat * Nat.pow 10 (-tens).toNat : Nat) : ℚ) = b * (2 : ℚ) ^ twos * scale := by
  have ten := natCast_pow_toNat 10 (by decide) tens
  have two := natCast_pow_toNat 2 (by decide) twos
  push_cast at ten two
  refine ⟨(Nat.pow 10 (-tens).toNat : Nat) * (Nat.pow 2 (-twos).toNat : Nat), ?_, ?_, ?_⟩
  · exact mul_pos (Nat.cast_pos.mpr (Nat.pow_pos (by decide))) (Nat.cast_pos.mpr (Nat.pow_pos (by decide)))
  · rw [Nat.cast_mul, Nat.cast_mul, ten]
    ring
  · rw [Nat.cast_mul, Nat.cast_mul, two]
    ring

theorem compareScaled_eq_gt_iff :
    compareScaled a tens b twos = .gt ↔ (b : ℚ) * (2 : ℚ) ^ twos < a * (10 : ℚ) ^ tens := by
  obtain ⟨scale, positive, isFirst, isSecond⟩ := exists_scale a tens b twos
  rw [compareScaled, Nat.compare_eq_gt, ← Nat.cast_lt (α := ℚ), isFirst, isSecond, mul_lt_mul_iff_left₀ positive]

theorem compareScaled_eq_lt_iff :
    compareScaled a tens b twos = .lt ↔ (a : ℚ) * (10 : ℚ) ^ tens < b * (2 : ℚ) ^ twos := by
  obtain ⟨scale, positive, isFirst, isSecond⟩ := exists_scale a tens b twos
  rw [compareScaled, Nat.compare_eq_lt, ← Nat.cast_lt (α := ℚ), isFirst, isSecond, mul_lt_mul_iff_left₀ positive]

end Compare

/-! ### Midpoints -/

/-- The midpoint below the number of some bits. -/
def midpoint (bits : Nat) : ℚ :=
  (Binary.ofBits bits).low * (2 : ℚ) ^ ((Binary.ofBits bits).exponent - 2)

theorem ofBits_add (raised fraction : Nat) (small : fraction < 2 ^ 52) :
    Binary.ofBits (raised * 2 ^ 52 + fraction) = if raised = 0 then ⟨fraction, -1074, false⟩
      else ⟨fraction + 2 ^ 52, (raised : Int) - 1075, fraction = 0 && 1 < raised⟩ := by
  have isRaised : (raised * 2 ^ 52 + fraction) / Nat.pow 2 52 = raised := by
    rw [Nat.pow_eq]
    omega
  have isFraction : (raised * 2 ^ 52 + fraction) % Nat.pow 2 52 = fraction := by
    rw [Nat.pow_eq]
    omega
  simp only [Binary.ofBits, isRaised, isFraction, Nat.pow_eq]

/-- **The midpoint above a number is the one below the next number.** -/
theorem midpoint_succ (bits : Nat) : midpoint (bits + 1)
    = (Binary.ofBits bits).high * (2 : ℚ) ^ ((Binary.ofBits bits).exponent - 2) := by
  obtain ⟨raised, fraction, small, rfl⟩ :
      ∃ raised fraction, fraction < 2 ^ 52 ∧ bits = raised * 2 ^ 52 + fraction :=
    ⟨bits / 2 ^ 52, bits % 2 ^ 52, Nat.mod_lt _ (by decide), by omega⟩
  rw [midpoint]
  by_cases inside : fraction + 1 < 2 ^ 52
  · rw [Nat.add_assoc, ofBits_add raised _ inside, ofBits_add raised _ small]
    by_cases isZero : raised = 0
    · have isSame : 4 * (fraction + 1) - 2 = 4 * fraction + 2 := by omega
      simp only [if_pos isZero, Binary.low, Binary.high, Bool.false_eq_true, if_false, isSame]
    · have isSame : 4 * (fraction + 1 + 2 ^ 52) - 2 = 4 * (fraction + 2 ^ 52) + 2 := by omega
      have isWide : (decide (fraction + 1 = 0) && decide (1 < raised)) = false := by simp
      simp only [if_neg isZero, Binary.low, Binary.high, isWide, Bool.false_eq_true, if_false, isSame]
  · have isNext : raised * 2 ^ 52 + fraction + 1 = (raised + 1) * 2 ^ 52 + 0 := by omega
    have isLast : fraction = 2 ^ 52 - 1 := by omega
    rw [isNext, ofBits_add _ _ (by decide), ofBits_add raised _ small, if_neg (Nat.succ_ne_zero _)]
    by_cases isZero : raised = 0
    · subst isZero isLast
      norm_num [Binary.low, Binary.high]
    · have positive : 0 < raised := Nat.pos_of_ne_zero isZero
      have isStep : (((raised + 1 : Nat) : Int) - 1075 - 2) = (raised : Int) - 1075 - 2 + 1 := by omega
      simp only [if_neg isZero, Binary.low, Binary.high, isStep, isLast]
      rw [zpow_add₀ (by norm_num)]
      norm_num [positive]
      ring

theorem mantissa_mod_two (bits : Nat) : (Binary.ofBits bits).mantissa % 2 = bits % 2 := by
  simp only [Binary.ofBits, Nat.pow_eq]
  split <;> simp only <;> omega

theorem Binary.low_lt_high (value : Binary) : value.low < value.high := by
  simp only [Binary.low, Binary.high]
  split <;> omega

theorem midpoint_lt_succ (bits : Nat) : midpoint bits < midpoint (bits + 1) := by
  rw [midpoint_succ, midpoint]
  have isLess : ((Binary.ofBits bits).low : ℚ) < (Binary.ofBits bits).high :=
    Nat.cast_lt.mpr (Binary.ofBits bits).low_lt_high
  exact mul_lt_mul_of_pos_right isLess (zpow_pos (by decide) _)

/-! ### Search -/

section Search

variable {decimal : Scientific} {bits : Nat}

/-- A decimal reaches a number if it is not below the midpoint, which itself belongs to an even number. -/
theorem reaches_iff : reaches decimal bits = true ↔
    midpoint bits < decimal.value ∨ bits % 2 = 0 ∧ midpoint bits = decimal.value := by
  have isBelow := compareScaled_eq_lt_iff decimal.digits decimal.exponent (Binary.ofBits bits).low
    ((Binary.ofBits bits).exponent - 2)
  have isAbove := compareScaled_eq_gt_iff decimal.digits decimal.exponent (Binary.ofBits bits).low
    ((Binary.ofBits bits).exponent - 2)
  rw [← midpoint, ← Scientific.value] at isAbove isBelow
  simp only [reaches, mantissa_mod_two]
  by_cases even : bits % 2 = 0
  · rw [if_pos even, bne_iff_ne, ne_eq, isBelow, not_lt, le_iff_lt_or_eq]
    simp [even]
  · rw [if_neg even, beq_iff_eq, isAbove]
    simp [even]

theorem reaches_of_succ (reached : reaches decimal (bits + 1) = true) : reaches decimal bits = true := by
  have isLess := midpoint_lt_succ bits
  rcases reaches_iff.mp reached with above | ⟨_, same⟩
  · exact reaches_iff.mpr (Or.inl (isLess.trans above))
  · exact reaches_iff.mpr (Or.inl (same ▸ isLess))

theorem reaches_of_le {more : Nat} (atMost : bits ≤ more) (reached : reaches decimal more = true) :
    reaches decimal bits = true := by
  induction more, atMost using Nat.le_induction with
  | base => exact reached
  | succ more _ ih => exact ih (reaches_of_succ reached)

/-- A decimal rounds to the last number that it reaches. -/
theorem roundsTo_ofBits_iff : roundsTo (Binary.ofBits bits) decimal = true ↔
    reaches decimal bits = true ∧ reaches decimal (bits + 1) = false := by
  have isBelow := compareScaled_eq_lt_iff decimal.digits decimal.exponent (Binary.ofBits bits).high
    ((Binary.ofBits bits).exponent - 2)
  have isAbove := compareScaled_eq_gt_iff decimal.digits decimal.exponent (Binary.ofBits bits).high
    ((Binary.ofBits bits).exponent - 2)
  rw [← midpoint_succ, ← Scientific.value] at isAbove isBelow
  rw [← Bool.not_eq_true, @reaches_iff decimal (bits + 1)]
  simp only [roundsTo, reaches, mantissa_mod_two]
  by_cases even : bits % 2 = 0
  · have odd : ¬ (bits + 1) % 2 = 0 := by omega
    rw [if_pos even, if_pos even, Bool.and_eq_true, bne_iff_ne (b := Ordering.gt), ne_eq, isAbove]
    simp [odd]
  · have evenToo : (bits + 1) % 2 = 0 := by omega
    rw [if_neg even, if_neg even, Bool.and_eq_true, beq_iff_eq (b := Ordering.lt), isBelow]
    simp only [evenToo, true_and, ← le_iff_lt_or_eq, not_le]

/-- **The search ends at the last number that is reached.** -/
theorem searchBits_eq {target : Nat} (reached : reaches decimal target = true)
    (last : reaches decimal (target + 1) = false) (width : Nat) (atMost : bits ≤ target)
    (below : target < bits + 2 ^ width) : searchBits decimal bits width = target := by
  induction width generalizing bits with
  | zero =>
    rw [searchBits]
    omega
  | succ width ih =>
    rw [searchBits]
    simp only [Nat.pow_eq]
    rw [Nat.pow_succ] at below
    by_cases isHigh : bits + 2 ^ width ≤ target
    · rw [if_pos (reaches_of_le isHigh reached)]
      exact ih isHigh (by omega)
    · have unreached : ¬ reaches decimal (bits + 2 ^ width) = true := by
        intro wrong
        rw [reaches_of_le (by omega) wrong] at last
        contradiction
      rw [if_neg unreached]
      exact ih atMost (by omega)

/-! ### The nearest double -/

theorem length_toDigits_bounds {digits : Nat} (positive : digits ≠ 0) :
    10 ^ ((Nat.toDigits 10 digits).length - 1) ≤ digits ∧ digits < 10 ^ (Nat.toDigits 10 digits).length := by
  have someDigit : 0 < (Nat.toDigits 10 digits).length := Nat.length_toDigits_pos
  constructor
  · by_cases single : (Nat.toDigits 10 digits).length = 1
    · rw [single]
      omega
    · by_contra isLess
      have := (Nat.length_toDigits_le_iff (by decide) (by omega)).mpr (Nat.lt_of_not_le isLess)
      omega
  · exact (Nat.length_toDigits_le_iff (by decide) someDigit).mp (Nat.le_refl _)

/-- The size of a decimal by the place of its point. -/
theorem Scientific.value_bounds (positive : decimal.digits ≠ 0) :
    let places : Int := (Nat.toDigits 10 decimal.digits).length + decimal.exponent
    (10 : ℚ) ^ (places - 1) ≤ decimal.value ∧ decimal.value < (10 : ℚ) ^ places := by
  intro places
  obtain ⟨least, most⟩ := length_toDigits_bounds positive
  have someDigit : 0 < (Nat.toDigits 10 decimal.digits).length := Nat.length_toDigits_pos
  have scale : (0 : ℚ) < 10 ^ decimal.exponent := zpow_pos (by decide) _
  constructor
  · have isPlace : places - 1
        = (((Nat.toDigits 10 decimal.digits).length - 1 : Nat) : Int) + decimal.exponent := by
      omega
    rw [isPlace, zpow_add₀ (by decide), zpow_natCast]
    exact mul_le_mul_of_nonneg_right (by exact_mod_cast least) scale.le
  · rw [show places = _ from rfl, zpow_add₀ (by decide), zpow_natCast]
    exact mul_lt_mul_of_pos_right (by exact_mod_cast most) scale

theorem midpoint_one : midpoint 1 = (2 : ℚ) ^ (-1075 : Int) := by
  have isFirst := ofBits_add 0 1 (by decide)
  rw [Nat.zero_mul, Nat.zero_add, if_pos rfl] at isFirst
  have isQuarters : ((Binary.ofBits 1).low : ℚ) = 2 := by
    rw [isFirst]
    norm_num [Binary.low]
  rw [midpoint, isQuarters, isFirst, ← zpow_one_add₀ (by decide)]
  rfl

theorem midpoint_infiniteBits : midpoint infiniteBits < (2 : ℚ) ^ (1024 : Int) := by
  have isLast := ofBits_add 2047 0 (by decide)
  rw [Nat.add_zero, if_neg (by decide)] at isLast
  have isQuarters : ((Binary.ofBits infiniteBits).low : ℚ) < (2 : ℚ) ^ (54 : Int) := by
    rw [infiniteBits, Nat.pow_eq, isLast]
    norm_num [Binary.low]
  have isExponent : (Binary.ofBits infiniteBits).exponent - 2 = 970 := by
    rw [infiniteBits, Nat.pow_eq, isLast]
    rfl
  have isPower : (2 : ℚ) ^ (1024 : Int) = 2 ^ (54 : Int) * 2 ^ (970 : Int) := (zpow_add₀ (by decide) 54 970)
  rw [midpoint, isExponent, isPower]
  exact mul_lt_mul_of_pos_right isQuarters (zpow_pos (by decide) _)

/-- A power of ten is above a power of two with three times the exponent. -/
theorem two_zpow_lt : (2 : ℚ) ^ (1200 : Int) < (10 : ℚ) ^ (400 : Int) := by
  rw [show (1200 : Int) = (3 * 400 : Nat) from rfl, zpow_natCast, pow_mul]
  exact pow_lt_pow_left₀ (by norm_num) (by norm_num) (by decide)

theorem midpoint_one_le (someBit : 0 < bits) (rounds : roundsTo (Binary.ofBits bits) decimal = true) :
    midpoint 1 ≤ decimal.value := by
  rcases reaches_iff.mp (reaches_of_le someBit (roundsTo_ofBits_iff.mp rounds).1) with above | ⟨_, same⟩
  · exact above.le
  · exact same.le

theorem digits_pos (someBit : 0 < bits) (rounds : roundsTo (Binary.ofBits bits) decimal = true) :
    0 < decimal.digits := by
  refine Nat.pos_of_ne_zero fun none => ?_
  have isLarge := midpoint_one_le someBit rounds
  rw [Scientific.value, none, midpoint_one, Nat.cast_zero, zero_mul] at isLarge
  exact absurd isLarge (not_le.mpr (zpow_pos (by decide) _))

/-- **A decimal is read as the double to which it rounds.** -/
theorem nearestBits_eq (someBit : 0 < bits) (isFinite : bits < infiniteBits)
    (rounds : roundsTo (Binary.ofBits bits) decimal = true) : nearestBits decimal = bits := by
  obtain ⟨reached, last⟩ := roundsTo_ofBits_iff.mp rounds
  have isLarge := midpoint_one_le someBit rounds
  have isSmall : decimal.value ≤ midpoint infiniteBits := by
    by_contra above
    have := reaches_of_le isFinite (reaches_iff.mpr (Or.inl (lt_of_not_ge above)))
    rw [last] at this
    contradiction
  have someDigit := (digits_pos someBit rounds).ne'
  obtain ⟨least, most⟩ := Scientific.value_bounds someDigit
  have placesLow : ¬ ((Nat.toDigits 10 decimal.digits).length : Int) + decimal.exponent < -400 := by
    intro isLow
    have atMost := zpow_le_zpow_right₀ (a := (10 : ℚ)) (by decide) isLow.le
    have atLeast := zpow_le_zpow_right₀ (a := (2 : ℚ)) (by decide) (show (-1200 : Int) ≤ -1075 by decide)
    have isLess : (10 : ℚ) ^ (-400 : Int) < (2 : ℚ) ^ (-1200 : Int) := by
      rw [zpow_neg, zpow_neg]
      exact (inv_lt_inv₀ (zpow_pos (by decide) _) (zpow_pos (by decide) _)).mpr two_zpow_lt
    rw [midpoint_one] at isLarge
    exact absurd (isLarge.trans_lt (most.trans_le atMost)) (isLess.trans_le atLeast).not_gt
  have placesHigh : ¬ 400 < ((Nat.toDigits 10 decimal.digits).length : Int) + decimal.exponent := by
    intro isHigh
    have atLeast := zpow_le_zpow_right₀ (a := (10 : ℚ)) (by decide) (Int.le_sub_one_of_lt isHigh)
    have atMost := zpow_le_zpow_right₀ (a := (2 : ℚ)) (by decide) (show (1024 : Int) ≤ 1200 by decide)
    have isLess := (atLeast.trans (least.trans isSmall)).trans_lt midpoint_infiniteBits
    exact absurd isLess (atMost.trans_lt two_zpow_lt).not_gt
  have isFound : searchBits decimal 0 63 = bits := by
    refine searchBits_eq reached last 63 (Nat.zero_le _) (isFinite.trans ?_)
    decide
  simp only [nearestBits, someDigit, placesLow, placesHigh, decide_false, Bool.or_self, Bool.false_eq_true,
    if_false, isFound]
  exact Nat.min_eq_right isFinite.le

/-! ### Shortest decimals -/

theorem roundsTo_of_pointOnGrid? {value : Binary} {exponent : Int}
    (found : pointOnGrid? value exponent = some decimal) : roundsTo value decimal = true := by
  unfold pointOnGrid? at found
  simp only at found
  split at found
  · split at found
    · cases found
      assumption
    · cases found
      assumption
    · split at found <;> cases found <;> assumption
  · cases found
    assumption
  · cases found
    assumption
  · cases found

theorem value_exactDecimal (value : Binary) :
    (exactDecimal value).value = value.mantissa * (2 : ℚ) ^ value.exponent := by
  have two := natCast_pow_toNat 2 (by decide) value.exponent
  rw [exactDecimal, Scientific.value]
  simp only [Nat.cast_mul]
  rw [two, zpow_neg, zpow_natCast, show (10 : ℚ) = 2 * 5 by norm_num, mul_pow, Nat.pow_eq, Nat.pow_eq]
  push_cast
  field_simp

/-- The exact decimal rounds to its number. -/
theorem roundsTo_exactDecimal (someBit : 0 < bits) :
    roundsTo (Binary.ofBits bits) (exactDecimal (Binary.ofBits bits)) = true := by
  have someMantissa : 0 < (Binary.ofBits bits).mantissa := by
    simp only [Binary.ofBits, Nat.pow_eq]
    split <;> simp only <;> omega
  have isValue : (exactDecimal (Binary.ofBits bits)).value
      = ((4 * (Binary.ofBits bits).mantissa : Nat) : ℚ) * (2 : ℚ) ^ ((Binary.ofBits bits).exponent - 2) := by
    rw [value_exactDecimal, zpow_sub₀ (by decide)]
    push_cast
    ring
  have scale : (0 : ℚ) < 2 ^ ((Binary.ofBits bits).exponent - 2) := zpow_pos (by decide) _
  have above : midpoint bits < (exactDecimal (Binary.ofBits bits)).value := by
    rw [midpoint, isValue]
    refine mul_lt_mul_of_pos_right (Nat.cast_lt.mpr ?_) scale
    simp only [Binary.low]
    split <;> omega
  have below : (exactDecimal (Binary.ofBits bits)).value < midpoint (bits + 1) := by
    rw [midpoint_succ, isValue]
    refine mul_lt_mul_of_pos_right (Nat.cast_lt.mpr ?_) scale
    simp only [Binary.high]
    omega
  refine roundsTo_ofBits_iff.mpr ⟨reaches_iff.mpr (Or.inl above), ?_⟩
  rw [← Bool.not_eq_true, reaches_iff]
  rintro (wrong | ⟨_, same⟩)
  · exact below.not_gt wrong
  · exact below.ne' same

/-- **The shortest decimal rounds to its number.** -/
theorem roundsTo_shortestDecimal (someBit : 0 < bits) :
    roundsTo (Binary.ofBits bits) (shortestDecimal (Binary.ofBits bits)) = true := by
  have onGrids (digits more : Nat) :
      roundsTo (Binary.ofBits bits) (shortestFrom (Binary.ofBits bits) digits more) = true := by
    induction more generalizing digits with
    | zero => exact roundsTo_exactDecimal someBit
    | succ more ih =>
      rw [shortestFrom]
      split
      · rename_i found
        exact roundsTo_of_pointOnGrid? found
      · exact ih (digits + 1)
  exact onGrids 1 17

/-- Decimals of one value round alike. -/
theorem roundsTo_congr {other : Scientific} (same : decimal.value = other.value) :
    roundsTo (Binary.ofBits bits) decimal = roundsTo (Binary.ofBits bits) other := by
  rw [Bool.eq_iff_iff, roundsTo_ofBits_iff, roundsTo_ofBits_iff, ← Bool.not_eq_true, ← Bool.not_eq_true,
    reaches_iff, reaches_iff, reaches_iff, reaches_iff, same]

end Search

/-- **A double is read back** from each decimal with the value of its shortest one. -/
theorem nearest_eq {value : Float} {decimal : Scientific} (isFinite : magnitudeBits value < infiniteBits)
    (isZero : magnitudeBits value = 0 → decimal.digits = 0)
    (isValue : 0 < magnitudeBits value →
      decimal.value = (shortestDecimal (Binary.ofBits (magnitudeBits value))).value) :
    nearest (isNegative value) decimal = value := by
  have isBits : nearestBits decimal = magnitudeBits value := by
    by_cases none : magnitudeBits value = 0
    · rw [none, nearestBits, isZero none]
      rfl
    · have some := Nat.pos_of_ne_zero none
      refine nearestBits_eq some isFinite ?_
      rw [roundsTo_congr (isValue some)]
      exact roundsTo_shortestDecimal some
  have inRange := value.toBits.toNat_lt
  have isWhole : (if isNegative value then Nat.pow 2 63 else 0) + magnitudeBits value = value.toBits.toNat := by
    simp only [isNegative, magnitudeBits, Nat.pow_eq, decide_eq_true_eq]
    split <;> omega
  rw [nearest, isBits, isWhole, UInt64.ofNat_toNat]
  refine Float.toBits_inj.mp (toBits_ofBits ?_)
  simp only [magnitudeBits, infiniteBits, Nat.pow_eq] at isFinite
  omega

end PromptChain.Decimal

import FoldTree.Decimal.Shortest
import Mathlib

/-! Which doubles are finite. Their bits tell them from infinities and from the absence of a number,
and whole numbers of a machine word can be taken from them: what is left of a number that is none,
or of an infinity, is no finite number either, and what is left of a finite number is one.
-/

namespace FoldTree.Decimal

open Float.Model Float.Model.UnpackedFloat

/-! ### Bits -/

/-- The bits of the exponent. -/
theorem toNat_unpackExponent (bits : BitVec Format.binary64.numBits)
    : (unpackExponent bits).toNat = bits.toNat / powerOfTwo 52 % powerOfTwo 11 := by
  simp [unpackExponent, BitVec.extractLsb_toNat, Nat.shiftRight_eq_div_pow, powerOfTwo]

/-- A double is finite unless its exponent has all bits, by the cases of how it is unpacked. -/
theorem isFinite_unpack (bits : BitVec Format.binary64.numBits)
    : (UnpackedFloat.unpack Format.binary64 bits).isFinite = true
      ↔ unpackExponent bits ≠ -1#_ := by
  rw [UnpackedFloat.unpack]
  dsimp only
  split
  · rename_i all
    have infinite : ¬unpackExponent bits ≠ -1#_ := not_not_intro all
    split <;> exact iff_of_false Bool.false_ne_true infinite
  · rename_i lacking
    split
    · split <;> exact iff_of_true rfl lacking
    · exact iff_of_true rfl lacking

/-- A finite double has units. -/
theorem exists_finite {x : Float} (finite : x.isFinite = true)
    : ∃ negative units power, Double.ofFloat x = .finite negative units power := by
  have lacking := (isFinite_unpack x.toBits.toBitVec).mp finite
  have apart : x.toBits.toNat / powerOfTwo 52 % powerOfTwo 11 ≠ 2047 := by
    intro all
    refine lacking (BitVec.eq_of_toNat_eq ?_)
    rw [toNat_unpackExponent]
    exact all
  unfold Double.ofFloat
  dsimp only
  rw [if_neg apart]
  split <;> exact ⟨_, _, _, rfl⟩

/-- A double is finite, an infinity, or no number. -/
theorem isFinite_eq (x : Float) : x.isFinite = !(x.isNaN || x.isInf) := by
  change x.toModel.unpack.isFinite = !(x.toModel.unpack.isNaN || x.toModel.unpack.isInf)
  cases x.toModel.unpack <;> rfl

/-! ### Rounding -/

/-- Zeros, and numbers of at most fifty-three bits whose units are at most a power of two. -/
inductive Within (top : Int) : UnpackedFloat → Prop
  | zero (sign : Sign) : Within top (.zero sign)
  | finite {sign : Sign} {units : Nat} {power : Int} {positive : 0 < units}
    (bits : units < 2 ^ 53) (least : -1074 ≤ power) (most : power ≤ top)
    : Within top (.finite sign units power positive)

section

variable {top : Int} {number : UnpackedFloat}

/-- A number within a power of two is finite. -/
theorem Within.isFinite (within : Within top number) : number.isFinite = true := by
  cases within <;> rfl

/-- The bits of the exponent bound the power that a unit is. -/
theorem within_unpack {bits : BitVec Format.binary64.numBits}
    (lacking : unpackExponent bits ≠ -1#_) (least : -1074 ≤ top)
    (most : (unpackExponent bits).toNat ≤ top + 1075)
    : Within top (UnpackedFloat.unpack Format.binary64 bits) := by
  have bias : (Format.binary64.exponentBias : Int) + Format.binary64.mantissaBitsWithoutImplicit
      = 1075 := by decide
  rw [UnpackedFloat.unpack]
  dsimp only
  rw [if_neg lacking, bias]
  split
  · rename_i none
    have low : (unpackExponent bits).toNat = 0 := congrArg BitVec.toNat none
    have mantissa : (unpackMantissa bits).toNat < 2 ^ 52 := (unpackMantissa bits).isLt
    split
    · exact .zero _
    · exact .finite (by omega) (by omega) (by omega)
  · rename_i some
    have positive : (unpackExponent bits).toNat ≠ 0 := fun low =>
      some (BitVec.eq_of_toNat_eq low)
    have mantissa : (1#1 ++ unpackMantissa bits).toNat < 2 ^ 53 :=
      (1#1 ++ unpackMantissa bits).isLt
    exact .finite mantissa (by omega) (by omega)

/-- A finite double is unpacked within the largest power that a unit can be. -/
theorem within_unpack_finite {bits : BitVec Format.binary64.numBits}
    (finite : (UnpackedFloat.unpack Format.binary64 bits).isFinite = true)
    : Within 971 (UnpackedFloat.unpack Format.binary64 bits) := by
  have lacking := (isFinite_unpack bits).mp finite
  have all : (unpackExponent bits).toNat ≠ 2047 := fun all =>
    lacking (BitVec.eq_of_toNat_eq all)
  have bound : (unpackExponent bits).toNat < 2048 := (unpackExponent bits).isLt
  exact within_unpack lacking (by decide) (by omega)

/-- A number within a power that a unit can be is packed into a double within it. -/
theorem Within.unpack_pack (within : Within top number) (most : top ≤ 971)
    : Within top (Float.Model.pack number).unpack := by
  cases within with
  | zero sign =>
      have unpacked : (Float.Model.pack (.zero sign)).unpack = .zero sign := by
        cases sign <;> rfl
      rw [unpacked]
      exact .zero sign
  | @finite sign units power positive bits least below =>
      have biased : (power + (Format.binary64.exponentBias : Int)
          + Format.binary64.mantissaBitsWithoutImplicit).toNat = (power + 1075).toNat := by
        change (power + 1023 + 52).toNat = _
        omega
      have small : ¬2 ^ Format.binary64.exponentBits ≤ (power + 1075).toNat + 1 := by
        change ¬2048 ≤ _
        omega
      have kept : (BitVec.ofNat Format.binary64.exponentBits (power + 1075).toNat).toNat
          = (power + 1075).toNat := by
        rw [BitVec.toNat_ofNat]
        exact Nat.mod_eq_of_lt (by omega)
      change Within top (UnpackedFloat.unpack Format.binary64
        (UnpackedFloat.pack Format.binary64 (.finite sign units power positive)))
      rw [UnpackedFloat.pack]
      dsimp only
      rw [biased, if_neg small]
      split
      · -- the leading bit is left out, and the power is in the exponent
        refine within_unpack ?_ (by omega) ?_
        · rw [unpackExponent_packComponents]
          intro all
          have same := congrArg BitVec.toNat all
          rw [kept] at same
          change _ = 2047 at same
          omega
        · rw [unpackExponent_packComponents, kept]
          omega
      · -- without a leading bit the exponent is zero, which stands for the least power
        refine within_unpack ?_ (by omega) ?_
        · rw [unpackExponent_packComponents]
          decide
        · rw [unpackExponent_packComponents]
          change (0 : Int) ≤ _
          omega

/-! ### Shifts -/

/-- A shifted number keeps its whole units. -/
theorem mantissa_shift (number : ExtendedMantissa) (places : Nat)
    : (number >>> places).mantissa = number.mantissa / 2 ^ places := by
  induction places with
  | zero => exact (Nat.div_one _).symm
  | succ places ih =>
      have step : (number >>> (places + 1)).mantissa = (number >>> places).mantissa / 2 := rfl
      rw [step, ih, Nat.div_div_eq_div_mul, pow_succ]

/-- The first bit that a shift leaves out. -/
theorem roundBit_shift (number : ExtendedMantissa) (places : Nat)
    : (number >>> (places + 1)).roundBit = (number.mantissa / 2 ^ places % 2 != 0) := by
  rw [← mantissa_shift]
  rfl

/-- Rounding adds a unit at most, and only where the first bit that is left out is set. -/
theorem roundedMantissa_le (number : ExtendedMantissa)
    : number.roundedMantissa ≤ number.mantissa + if number.roundBit then 1 else 0 := by
  obtain ⟨units, half, more⟩ := number
  cases half <;> cases more <;>
    simp [ExtendedMantissa.roundedMantissa, ExtendedMantissa.accuracy, Accuracy.roundToNearestEven]
  omega

/-- Rounding goes up only from a half on, so it adds half a unit at most. -/
theorem roundedMantissa_shift (units places : Nat)
    : 2 * ((ExtendedMantissa.mk units false false >>> places).roundedMantissa * 2 ^ places)
      ≤ 2 * units + 2 ^ places := by
  generalize shifted : ExtendedMantissa.mk units false false >>> places = number
  have whole : number.mantissa = units / 2 ^ places := by rw [← shifted, mantissa_shift]
  have added := roundedMantissa_le number
  rw [whole] at added
  have below : units / 2 ^ places * 2 ^ places ≤ units := Nat.div_mul_le_self units _
  cases half : number.roundBit with
  | false =>
      rw [half, if_neg Bool.false_ne_true, Nat.add_zero] at added
      have scaled := Nat.mul_le_mul_right (2 ^ places) added
      exact (Nat.mul_le_mul_left 2 (scaled.trans below)).trans (Nat.le_add_right _ _)
  | true =>
      rw [half, if_pos rfl] at added
      cases places with
      | zero =>
          cases shifted
          cases half
      | succ places =>
          have first : units / 2 ^ places % 2 ≠ 0 := by
            rw [← shifted, roundBit_shift, bne_iff_ne] at half
            exact half
          have odd : units / 2 ^ places = 2 * (units / 2 ^ (places + 1)) + 1 := by
            rw [pow_succ, ← Nat.div_div_eq_div_mul]
            omega
          have halves : units / 2 ^ places * 2 ^ places ≤ units := Nat.div_mul_le_self units _
          have scaled := Nat.mul_le_mul_right (2 ^ (places + 1)) added
          rw [odd] at halves
          generalize units / 2 ^ (places + 1) = quotient at *
          rw [pow_succ] at scaled ⊢
          linarith

/-! ### Rounded numbers -/

/-- Shifting a number to the power that its units are to have. -/
theorem shiftToTargetExponent_exact (units : Nat) (power : Int)
    : let places := (max (units.log2 + 1 + power - 53) (-1074) - power).toNat
      shiftToTargetExponent Format.binary64 units power .exact
        = (ExtendedMantissa.mk units false false >>> places, power + places) :=
  rfl

/-- A positive number is at least the power of two that its leading bit stands for. -/
theorem two_zpow_log2_le {units : Nat} (positive : 0 < units)
    : (2 : ℚ) ^ (units.log2 : Int) ≤ units := by
  rw [zpow_natCast]
  exact_mod_cast Nat.log2_self_le positive.ne'

/-- A number below a power keeps its leading bit within it. -/
theorem place_le {units : Nat} {power : Int} (positive : 0 < units) (least : -1074 ≤ top)
    (bound : (units : ℚ) * 2 ^ power < 2 ^ 53 * 2 ^ top)
    : max (units.log2 + 1 + power - 53) (-1074) ≤ top := by
  refine max_le ?_ least
  by_contra beyond
  refine absurd bound (not_lt.mpr ?_)
  calc (2 : ℚ) ^ 53 * 2 ^ top = 2 ^ (53 + top) := (zpow_add₀ two_ne_zero 53 top).symm
    _ ≤ 2 ^ (units.log2 + power) := zpow_le_zpow_right₀ one_le_two (by omega)
    _ = 2 ^ (units.log2 : Int) * 2 ^ power := zpow_add₀ two_ne_zero _ _
    _ ≤ units * 2 ^ power :=
        mul_le_mul_of_nonneg_right (two_zpow_log2_le positive) (zpow_nonneg zero_le_two _)

/-- A number whose units are fine is rounded within a power, unless rounding carries it over. -/
theorem roundWithAccuracy_within {sign : Sign} {units : Nat} {power : Int} (positive : 0 < units)
    (fine : power ≤ max (units.log2 + 1 + power - 53) (-1074)) (least : -1074 ≤ top)
    (bound : (units : ℚ) * 2 ^ power < (2 ^ 53 - 1 / 2) * 2 ^ top)
    : Within top (roundWithAccuracy Format.binary64 sign units power .exact) := by
  have unit : (0 : ℚ) < 2 ^ top := zpow_pos two_pos top
  have below := place_le positive least (bound.trans (by linarith))
  have target := shiftToTargetExponent_exact units power
  dsimp only at target
  generalize max (units.log2 + 1 + power - 53) (-1074) = place at fine target below
  generalize shift : (place - power).toNat = places at target
  have reached : power + places = place := by omega
  have rounding := roundedMantissa_shift units places
  rw [roundWithAccuracy, target, reached]
  dsimp only
  generalize (ExtendedMantissa.mk units false false >>> places).roundedMantissa = rounded
    at rounding ⊢
  have again := shiftToTargetExponent_exact rounded place
  dsimp only at again
  generalize carry : (max (rounded.log2 + 1 + place - 53) (-1074) - place).toNat = more at again
  rw [again]
  dsimp only
  rw [mantissa_shift]
  split
  · exact .zero sign
  · rename_i nonzero
    have positive' : 0 < rounded :=
      Nat.pos_of_ne_zero fun none => nonzero (by rw [none, Nat.zero_div])
    -- half a unit more than the bound is still below the next power of two
    have scale : (2 : ℚ) ^ place = 2 ^ places * 2 ^ power := by
      rw [← reached, add_comm, zpow_add₀ two_ne_zero, zpow_natCast]
    have small : (rounded : ℚ) * 2 ^ place < 2 ^ 53 * 2 ^ top := by
      have rounding' : 2 * ((rounded : ℚ) * 2 ^ places) ≤ 2 * units + 2 ^ places := by
        exact_mod_cast rounding
      have unit' : (0 : ℚ) ≤ 2 ^ power := zpow_nonneg zero_le_two power
      have scaled := mul_le_mul_of_nonneg_right rounding' unit'
      have half : (2 : ℚ) ^ place ≤ 2 ^ top := zpow_le_zpow_right₀ one_le_two below
      rw [scale] at half ⊢
      linarith
    have place' := place_le positive' least small
    refine .finite ?_ (by omega) (by omega)
    have bits : rounded < 2 ^ (53 + more) :=
      Nat.lt_log2_self.trans_le (Nat.pow_le_pow_right (by decide) (by omega))
    rw [Nat.add_comm, pow_add] at bits
    exact Nat.div_lt_of_lt_mul bits

/-- Shifting a number up moves its leading bit. -/
theorem log2_shiftLeft {units : Nat} (positive : 0 < units) (places : Nat)
    : (units <<< places).log2 = units.log2 + places := by
  rw [Nat.shiftLeft_eq, Nat.log2_eq_iff (Nat.mul_pos positive (Nat.two_pow_pos places)).ne']
  constructor
  · rw [pow_add]
    exact Nat.mul_le_mul_right _ (Nat.log2_self_le positive.ne')
  · rw [Nat.add_right_comm, pow_add]
    exact Nat.mul_lt_mul_of_pos_right Nat.lt_log2_self (Nat.two_pow_pos places)

/-- A positive number is rounded within a power, unless rounding carries it over. -/
theorem round_within {sign : Sign} {units : Nat} {power : Int} (positive : 0 < units)
    (least : -1074 ≤ top) (bound : (units : ℚ) * 2 ^ power < (2 ^ 53 - 1 / 2) * 2 ^ top)
    : Within top (round Format.binary64 sign units power) := by
  unfold UnpackedFloat.round
  change Within top (roundWithAccuracy Format.binary64 sign
    (units <<< (power - max (units.log2 + 1 + power - 53) (-1074)).toNat)
    (power - (power - max (units.log2 + 1 + power - 53) (-1074)).toNat) .exact)
  generalize shift : (power - max (units.log2 + 1 + power - 53) (-1074)).toNat = places
  have moved := log2_shiftLeft positive places
  refine roundWithAccuracy_within ?_ (by omega) least ?_
  · rw [Nat.shiftLeft_eq]
    exact Nat.mul_pos positive (Nat.two_pow_pos places)
  · -- the number itself is the same
    have same : ((units <<< places : Nat) : ℚ) * 2 ^ (power - places) = units * 2 ^ power := by
      rw [Nat.shiftLeft_eq, Nat.cast_mul, Nat.cast_pow, Nat.cast_ofNat, mul_assoc, ← zpow_natCast,
        ← zpow_add₀ two_ne_zero, add_sub_cancel]
    rwa [same]

/-- A whole number of units is rounded within a power, unless rounding carries it over. -/
theorem normalize_within {units power : Int} {sign : Sign} (least : -1074 ≤ top)
    (bound : (|units| : ℚ) * 2 ^ power < (2 ^ 53 - 1 / 2) * 2 ^ top)
    : Within top (normalize Format.binary64 units power sign) := by
  have magnitude : (|units| : ℚ) = units.natAbs := by
    rw [Nat.cast_natAbs, Int.cast_abs]
  rw [magnitude] at bound
  unfold UnpackedFloat.normalize
  split
  · rename_i order
    have negative : units < 0 := Int.compare_eq_lt.mp order
    have same : (-units).toNat = units.natAbs := by omega
    rw [same]
    exact round_within (by omega) least bound
  · exact .zero _
  · rename_i order
    have positive : 0 < units := Int.compare_eq_gt.mp order
    have same : units.toNat = units.natAbs := by omega
    rw [same]
    exact round_within (by omega) least bound

/-! ### Differences -/

/-- What is left of a number that is not finite is not finite. -/
theorem isFinite_sub_left {x : Float} (lacking : x.isFinite = false) (y : Float)
    : (x - y).isFinite = false := by
  have kept : (UnpackedFloat.sub Format.binary64 x.toModel.unpack y.toModel.unpack).isFinite = false
      := by
    change x.toModel.unpack.isFinite = false at lacking
    generalize x.toModel.unpack = number at lacking ⊢
    cases number with
    | notANumber => rfl
    | infinity sign =>
        cases y.toModel.unpack with
        | infinity other =>
            rw [UnpackedFloat.sub]
            split <;> rfl
        | _ => rfl
    | _ => cases lacking
  change (Float.Model.pack (UnpackedFloat.sub _ _ _)).unpack.isFinite = false
  generalize UnpackedFloat.sub Format.binary64 x.toModel.unpack y.toModel.unpack = left at kept ⊢
  cases left with
  | notANumber => rfl
  | infinity sign => cases sign <;> rfl
  | _ => cases kept

/-- Units that are shifted to a lower power are the same number, whatever their sign. -/
theorem abs_apply_shift (sign : Sign) (units : Nat) {power lower : Int} (below : lower ≤ power)
    : |((sign.apply ((units <<< (power - lower).toNat : Nat) : Int) : Int) : ℚ)| * 2 ^ lower
      = units * 2 ^ power := by
  have magnitude (n : Nat) : |((sign.apply (n : Int) : Int) : ℚ)| = n := by
    cases sign <;> simp [Sign.apply]
  have places : ((power - lower).toNat : Int) = power - lower := Int.toNat_of_nonneg (by omega)
  rw [magnitude, Nat.shiftLeft_eq, Nat.cast_mul, Nat.cast_pow, Nat.cast_ofNat, mul_assoc,
    ← zpow_natCast, places, ← zpow_add₀ two_ne_zero, sub_add_cancel]

/-- A number is at most all of its bits times the largest power that its units can be. -/
theorem units_mul_le {units : Nat} {power : Int} (bits : units < 2 ^ 53) (most : power ≤ top)
    : (units : ℚ) * 2 ^ power ≤ (2 ^ 53 - 1) * 2 ^ top := by
  refine mul_le_mul ?_ (zpow_le_zpow_right₀ one_le_two most) (zpow_nonneg zero_le_two _)
    (by norm_num)
  rw [le_sub_iff_add_le]
  exact_mod_cast bits

/-- What is left of a finite number when one of far smaller units is taken from it is finite. -/
theorem Within.sub {number other : UnpackedFloat} (within : Within 971 number)
    (within' : Within 900 other)
    : Within 971 (UnpackedFloat.sub Format.binary64 number other) := by
  cases within with
  | zero sign =>
      cases within' with
      | zero other =>
          rw [UnpackedFloat.sub]
          split <;> exact .zero _
      | finite bits least most => exact .finite bits least (by omega)
  | @finite sign units power _ bits least most =>
      cases within' with
      | zero other => exact .finite bits least most
      | @finite sign' units' power' _ bits' least' most' =>
          rw [UnpackedFloat.sub]
          dsimp only [decreaseExponent]
          refine normalize_within (by decide) ?_
          have whole := abs_apply_shift sign units (min_le_left power power')
          have less := abs_apply_shift sign' units' (min_le_right power power')
          generalize sign.apply _ = a at whole ⊢
          generalize sign'.apply _ = b at less ⊢
          have apart : |((a - b : Int) : ℚ)| ≤ |(a : ℚ)| + |(b : ℚ)| := by
            rw [Int.cast_sub]
            exact abs_sub _ _
          -- both are taken to the lesser power, and the second is too small to reach the bound
          calc |((a - b : Int) : ℚ)| * 2 ^ min power power'
              ≤ (|(a : ℚ)| + |(b : ℚ)|) * 2 ^ min power power' :=
                mul_le_mul_of_nonneg_right apart (zpow_nonneg zero_le_two _)
            _ = units * 2 ^ power + units' * 2 ^ power' := by rw [add_mul, whole, less]
            _ ≤ (2 ^ 53 - 1) * 2 ^ (971 : Int) + (2 ^ 53 - 1) * 2 ^ (900 : Int) :=
                add_le_add (units_mul_le bits most) (units_mul_le bits' most')
            _ < (2 ^ 53 - 1 / 2) * 2 ^ (971 : Int) := by
                have unit : (0 : ℚ) < 2 ^ (900 : Int) := zpow_pos two_pos 900
                have scale : (2 : ℚ) ^ (971 : Int) = 2 ^ 71 * 2 ^ (900 : Int) := by
                  rw [← zpow_natCast, ← zpow_add₀ two_ne_zero]
                  rfl
                rw [scale]
                generalize (2 : ℚ) ^ (900 : Int) = unit at unit
                linarith

/-! ### Whole numbers -/

/-- A whole number of a machine word is far below the bound for small units. -/
theorem word_lt {n : Nat} (word : n < 2 ^ 64) : (n : ℚ) < (2 ^ 53 - 1 / 2) * 2 ^ (900 : Int) := by
  have least : (2 : ℚ) ^ 64 ≤ 2 ^ (900 : Int) := by
    rw [← zpow_natCast]
    exact zpow_le_zpow_right₀ one_le_two (by decide)
  have bound : (n : ℚ) < 2 ^ 64 := by exact_mod_cast word
  generalize (2 : ℚ) ^ (900 : Int) = unit at least ⊢
  linarith

/-- A number of small units keeps them when it is multiplied by one. -/
theorem Within.times_one {number : UnpackedFloat} (within : Within 900 number)
    : Within 900 (UnpackedFloat.mul Format.binary64 number
        (.finite .positive (2 ^ 52) (-52) (by decide))) := by
  cases within with
  | zero sign => exact .zero _
  | @finite sign units power positive bits least most =>
      rw [UnpackedFloat.mul]
      have many : 2 ^ 52 ≤ units * 2 ^ 52 := Nat.le_mul_of_pos_left _ positive
      have leading : 52 ≤ (units * 2 ^ 52).log2 := (Nat.le_log2 (by omega)).mpr many
      refine roundWithAccuracy_within (by omega) (by omega) (by decide) ?_
      have same : ((units * 2 ^ 52 : Nat) : ℚ) * 2 ^ (power + -52) = units * 2 ^ power := by
        rw [zpow_add₀ two_ne_zero, Nat.cast_mul, Nat.cast_pow, Nat.cast_ofNat]
        norm_num
        ring
      have unit : (0 : ℚ) < 2 ^ (900 : Int) := zpow_pos two_pos 900
      refine same.trans_lt ((units_mul_le bits most).trans_lt ?_)
      generalize (2 : ℚ) ^ (900 : Int) = unit at unit
      linarith

/-- A whole number of a machine word, written with a point far to the left, has small units. -/
theorem ofScientific_within {n : Nat} (word : n < 2 ^ 64)
    : Within 900 (UnpackedFloat.ofScientific Format.binary64 n 0) := by
  rw [UnpackedFloat.ofScientific]
  split
  · exact .zero _
  · rename_i nonzero
    have far : ¬(0 : Int) < -((2 ^ Format.binary64.exponentBits : Int) + n.log2) := by
      change ¬(0 : Int) < -(2048 + n.log2)
      omega
    rw [if_neg (by decide), if_neg far, if_pos le_rfl, UnpackedFloat.mul]
    have whole : n <<< Format.binary64.mantissaBits * 10 ^ (0 : Int).toNat = n <<< 53 :=
      Nat.mul_one _
    have leading : (n <<< 53).log2 = n.log2 + 53 :=
      log2_shiftLeft (Nat.pos_of_ne_zero nonzero) 53
    have power : -(Format.binary64.mantissaBits : Int) + 0 = -53 := by decide
    rw [whole, power]
    refine roundWithAccuracy_within ?_ (by omega) (by decide) ?_
    · rw [Nat.shiftLeft_eq]
      omega
    · have same : ((n <<< 53 : Nat) : ℚ) * 2 ^ (-53 : Int) = n := by
        rw [Nat.shiftLeft_eq, Nat.cast_mul]
        norm_num
        ring
      exact same.trans_lt (word_lt word)

/-- A double of a whole number of a machine word has small units: numbers of at most fifty-three
bits are converted as they are, others by way of a larger one.
-/
theorem within_ofNat {n : Nat} (word : n < 2 ^ 64)
    : Within 900 (Float.ofNat n).toModel.unpack := by
  change Within 900 (Float.ofScientific n false 0).toModel.unpack
  rw [Float.ofScientific]
  split
  · have same : n.toUInt64.toNat = n := Nat.mod_eq_of_lt word
    have converted : Within 900 n.toUInt64.toFloat.toModel.unpack := by
      refine Within.unpack_pack (normalize_within (by decide) ?_) (by decide)
      rw [same, zpow_zero, mul_one, Int.cast_natCast, Nat.abs_cast]
      exact word_lt word
    have one : (Float.exactlyRepresentablePowersOfTen[0]).toModel.unpack
        = .finite .positive (2 ^ 52) (-52) (by decide) := rfl
    refine Within.unpack_pack ?_ (by decide)
    rw [one]
    exact converted.times_one
  · exact (ofScientific_within word).unpack_pack (by decide)

/-- What is left of a finite number when a whole number of a machine word is taken from it is
finite.
-/
theorem isFinite_sub_ofInt {x : Float} {n : Int} (finite : x.isFinite = true) (positive : 0 ≤ n)
    (word : n < 2 ^ 64)
    : (x - Float.ofInt n).isFinite = true := by
  obtain ⟨n, rfl⟩ := Int.eq_ofNat_of_zero_le positive
  have within := (within_unpack_finite finite).sub (within_ofNat (n := n) (by omega))
  exact (within.unpack_pack le_rfl).isFinite

end

end FoldTree.Decimal

import Mathlib
import Courseware.Relevance.Retrieval

/-! # How floats are ordered

Chunks are ranked by a total order of floats, `orderKey`, and compared as numbers by `<` and `==`. A
float is a sign before a `magnitude`, an exponent before a significand. Read as whole numbers these
magnitudes are in the order of the floats, so a float that is a number has a `level`, its magnitude
with its sign:

* `lt_iff` and `beq_iff`: floats compare as numbers as their levels compare;
* `orderKey_lt_iff`: keys compare as levels do, with one exception: of the two zeros, which are the
  same number, the negative one comes first. -/

namespace Courseware.Relevance

open Float.Model
open Float.Model.UnpackedFloat (Sign)

/-! ## The parts of a float -/

/-- **The sign of a float.** -/
def sign (x : Float) : Sign := if x.toBits.toNat < 0x8000000000000000 then .positive else .negative

/-- **The bits of a float without its sign.** -/
def magnitude (x : Float) : Nat := x.toBits.toNat % 0x8000000000000000

/-- **The level of a float**: its magnitude with its sign. Both zeros have level zero. -/
def level (x : Float) : Int := (sign x).apply (magnitude x)

/-- A float has no sign when its highest bit is clear. -/
theorem sign_eq_positive_iff {x : Float} :
    sign x = .positive ↔ x.toBits.toNat < 0x8000000000000000 := by
  unfold sign
  split <;> simp_all

/-- A float has a sign when its highest bit is set. -/
theorem sign_eq_negative_iff {x : Float} :
    sign x = .negative ↔ 0x8000000000000000 ≤ x.toBits.toNat := by
  unfold sign
  split <;> simp_all

/-- Floats with the same sign and magnitude are the same. -/
theorem eq_of_sign_magnitude {x y : Float} (hs : sign x = sign y)
    (hm : magnitude x = magnitude y) : x = y := by
  have hx := x.toBits.toNat_lt
  have hy := y.toBits.toNat_lt
  have hpositive : sign x = .positive ↔ x.toBits.toNat < 0x8000000000000000 :=
    sign_eq_positive_iff
  rw [hs, sign_eq_positive_iff] at hpositive
  unfold magnitude at hm
  apply Float.toBits_inj.mp
  apply UInt64.toNat_inj.mp
  omega

/-- Zero is the float without a sign whose magnitude is zero. -/
theorem eq_zero_iff {x : Float} : x = 0.0 ↔ sign x = .positive ∧ magnitude x = 0 := by
  have hsign : sign 0.0 = .positive := sign_eq_positive_iff.mpr (by decide +kernel)
  have hmagnitude : magnitude 0.0 = 0 := by decide +kernel
  constructor
  · rintro rfl
    exact ⟨hsign, hmagnitude⟩
  · rintro ⟨hs, hm⟩
    exact eq_of_sign_magnitude (hs.trans hsign.symm) (hm.trans hmagnitude.symm)

/-- Negative zero is the float with a sign whose magnitude is zero. -/
theorem eq_neg_zero_iff {x : Float} : x = -0.0 ↔ sign x = .negative ∧ magnitude x = 0 := by
  have hsign : sign (-0.0) = .negative := sign_eq_negative_iff.mpr (by decide +kernel)
  have hmagnitude : magnitude (-0.0) = 0 := by decide +kernel
  constructor
  · rintro rfl
    exact ⟨hsign, hmagnitude⟩
  · rintro ⟨hs, hm⟩
    exact eq_of_sign_magnitude (hs.trans hsign.symm) (hm.trans hmagnitude.symm)

/-! ## The order of keys -/

/-- The level of a float without a sign. -/
theorem level_positive {x : Float} (h : sign x = .positive) : level x = magnitude x := by
  rw [level, h]
  rfl

/-- The level of a float with a sign. -/
theorem level_negative {x : Float} (h : sign x = .negative) : level x = -magnitude x := by
  rw [level, h]
  rfl

/-- From zero on, keys count up. -/
theorem orderKey_positive {x : Float} (h : sign x = .positive) : orderKey x = magnitude x := by
  have hpow : Nat.pow 2 63 = 0x8000000000000000 := rfl
  have hlow := sign_eq_positive_iff.mp h
  rw [orderKey, hpow, if_pos hlow, magnitude, Nat.mod_eq_of_lt hlow]

/-- From negative zero on, keys count down from minus one. -/
theorem orderKey_negative {x : Float} (h : sign x = .negative) :
    orderKey x = -(magnitude x : Int) - 1 := by
  have hbits := x.toBits.toNat_lt
  have hpow : Nat.pow 2 63 = 0x8000000000000000 := rfl
  have hhigh := sign_eq_negative_iff.mp h
  have hsub : x.toBits.toNat - 0x8000000000000000 = magnitude x := by
    unfold magnitude
    omega
  rw [orderKey, hpow, if_neg (Nat.not_lt.mpr hhigh), hsub]

/-- Floats with the same key are the same. -/
theorem eq_of_orderKey {x y : Float} (h : orderKey x = orderKey y) : x = y := by
  cases hx : sign x <;> cases hy : sign y
  case negative.negative =>
    rw [orderKey_negative hx, orderKey_negative hy] at h
    exact eq_of_sign_magnitude (hx.trans hy.symm) (by omega)
  case positive.positive =>
    rw [orderKey_positive hx, orderKey_positive hy] at h
    exact eq_of_sign_magnitude (hx.trans hy.symm) (by omega)
  case negative.positive =>
    rw [orderKey_negative hx, orderKey_positive hy] at h
    omega
  case positive.negative =>
    rw [orderKey_positive hx, orderKey_negative hy] at h
    omega

/-- **Keys compare as levels do**, and of the two zeros the negative one comes first. -/
theorem orderKey_lt_iff {x y : Float} :
    orderKey x < orderKey y ↔ level x < level y ∨ x = -0.0 ∧ y = 0.0 := by
  rw [eq_zero_iff, eq_neg_zero_iff]
  -- Below zero a key is one less than the level, which matters for floats with different signs.
  cases hx : sign x <;> cases hy : sign y
  case negative.negative =>
    rw [orderKey_negative hx, orderKey_negative hy, level_negative hx, level_negative hy]
    simp
  case negative.positive =>
    rw [orderKey_negative hx, orderKey_positive hy, level_negative hx, level_positive hy]
    simp
    omega
  case positive.negative =>
    rw [orderKey_positive hx, orderKey_negative hy, level_positive hx, level_negative hy]
    simp
    omega
  case positive.positive =>
    rw [orderKey_positive hx, orderKey_positive hy, level_positive hx, level_positive hy]
    simp

/-! ## What a float stands for -/

/-- **The number with a sign and a magnitude**: eleven bits of an exponent before fifty-two bits of
a significand, which begins with a one unless the exponent is zero. -/
def unpacked (s : Sign) (n : Nat) : UnpackedFloat :=
  if n / 0x10000000000000 = 2047 then
    if n % 0x10000000000000 = 0 then .infinity s else .notANumber
  else if n / 0x10000000000000 = 0 then
    if h : n % 0x10000000000000 = 0 then .zero s
    else .finite s (n % 0x10000000000000) (-1074) (Nat.pos_of_ne_zero h)
  else
    .finite s (0x10000000000000 + n % 0x10000000000000) ((n / 0x10000000000000 : Nat) - 1075)
      (Nat.add_pos_left (by decide) _)

/-- The highest bit of a float is its sign. -/
theorem ofBitVec_unpackSign (x : Float) :
    Sign.ofBitVec (@UnpackedFloat.unpackSign Format.binary64 x.toBits.toBitVec)
      = sign x := by
  have hbits := x.toBits.toNat_lt
  have hhigh : x.toBits.toNat / 0x8000000000000000 % 2 = 0 ↔
      x.toBits.toNat < 0x8000000000000000 := by
    omega
  simp only [Sign.ofBitVec, UnpackedFloat.unpackSign, sign, BitVec.toNat_eq]
  simp [Nat.shiftRight_eq_div_pow, hhigh]

/-- The exponent stands before the significand. -/
theorem toNat_unpackExponent (x : Float) :
    (@UnpackedFloat.unpackExponent Format.binary64 x.toBits.toBitVec).toNat
      = magnitude x / 0x10000000000000 := by
  simp [UnpackedFloat.unpackExponent, magnitude, Nat.shiftRight_eq_div_pow]
  omega

/-- The significand stands last. -/
theorem toNat_unpackMantissa (x : Float) :
    (@UnpackedFloat.unpackMantissa Format.binary64 x.toBits.toBitVec).toNat
      = magnitude x % 0x10000000000000 := by
  simp [UnpackedFloat.unpackMantissa, magnitude]

/-- **A float stands for the number with its sign and magnitude.** -/
theorem unpack_eq (x : Float) : x.toModel.unpack = unpacked (sign x) (magnitude x) := by
  have htoBits : x.toModel.toBits = x.toBits := rfl
  have hbias : (Format.binary64.exponentBias : Int) = 1023 := by decide
  have hones : (-1#11).toNat = 2047 := by decide
  rw [Float.Model.unpack, UnpackedFloat.unpack, unpacked, htoBits]
  simp only [ofBitVec_unpackSign, toNat_unpackExponent, toNat_unpackMantissa, BitVec.toNat_eq,
    BitVec.toNat_append, hones, hbias, BitVec.toNat_ofNat, Nat.zero_mod]
  split
  · rfl
  · split
    · rename_i hzero
      simp [hzero]
    · congr 1
      -- The leading one is a bit above those of the significand.
      have hfraction : magnitude x % 0x10000000000000 < 2 ^ 52 := Nat.mod_lt _ (by decide)
      rw [← Nat.shiftLeft_add_eq_or_of_lt hfraction]
      rfl

/-- **The magnitudes of numbers.** A significand below its leading one has the least exponent. -/
inductive Numeric (s : Sign) : Nat → UnpackedFloat → Prop
  | infinity : Numeric s 0x7ff0000000000000 (.infinity s)
  | zero : Numeric s 0 (.zero s)
  | finite {n m : Nat} {e : Int} (pos : 0 < m) (parts : n = (e + 1074) * 0x10000000000000 + m)
      (lt : m < 0x20000000000000) (leading : e = -1074 ∨ -1074 < e ∧ 0x10000000000000 ≤ m)
      (bound : n < 0x7ff0000000000000) : Numeric s n (.finite s m e pos)

/-- Up to the magnitude of infinity, magnitudes are those of numbers. -/
theorem numeric_unpacked (s : Sign) {n : Nat} (h : n ≤ 0x7ff0000000000000) :
    Numeric s n (unpacked s n) := by
  unfold unpacked
  split
  · have hinfinity : n = 0x7ff0000000000000 := by omega
    subst hinfinity
    exact .infinity
  · split
    · split
      · have hzero : n = 0 := by omega
        subst hzero
        exact .zero
      · exact .finite _ (by omega) (by omega) (by omega) (by omega)
    · exact .finite _ (by omega) (by omega) (by omega) (by omega)

/-- What is not a number has a magnitude above that of infinity. -/
theorem magnitude_le {x : Float} (h : x.isNaN = false) : magnitude x ≤ 0x7ff0000000000000 := by
  have hbits : magnitude x < 0x8000000000000000 := Nat.mod_lt _ (by decide)
  have hnumber : (unpacked (sign x) (magnitude x)).isNaN = false := by
    rw [← unpack_eq]
    exact h
  refine Nat.le_of_not_lt fun hlarge => ?_
  have hexponent : magnitude x / 0x10000000000000 = 2047 := by omega
  have hfraction : ¬ magnitude x % 0x10000000000000 = 0 := by omega
  rw [unpacked, if_pos hexponent, if_neg hfraction] at hnumber
  cases hnumber

/-- A finite float is a number. -/
theorem isNaN_of_isFinite {x : Float} (h : x.isFinite = true) : x.isNaN = false := by
  have hkind : x.toModel.unpack.isFinite = true := h
  show x.toModel.unpack.isNaN = false
  cases hx : x.toModel.unpack <;> rw [hx] at hkind
  case notANumber => cases hkind
  all_goals rfl

/-! ## Comparing numbers -/

/-- Turning signs around turns a comparison around. -/
theorem swap_compare (a b : Int) : (compare a b).swap = compare (-a) (-b) := by
  rw [Int.compare_swap, Int.compare_eq_ite_lt, Int.compare_eq_ite_lt]
  simp only [Int.neg_lt_neg_iff]

/-- Exponents before significands compare as the magnitudes that they make up. -/
theorem compare_then {n k m l : Nat} {e f : Int}
    (hn : n = (e + 1074) * 0x10000000000000 + m) (hk : k = (f + 1074) * 0x10000000000000 + l)
    (hm : m < 0x20000000000000) (hl : l < 0x20000000000000)
    (he : e = -1074 ∨ -1074 < e ∧ 0x10000000000000 ≤ m)
    (hf : f = -1074 ∨ -1074 < f ∧ 0x10000000000000 ≤ l) :
    (compare e f).then (compare m l) = compare (n : Int) (k : Int) := by
  -- The higher of two exponents belongs to a significand with a leading one.
  obtain hlt | heq | hgt := Int.lt_trichotomy e f
  · rw [Int.compare_eq_lt.mpr hlt, Int.compare_eq_lt.mpr (by omega)]
    rfl
  · subst heq
    have hless : m < l ↔ (n : Int) < k := by omega
    have hmore : l < m ↔ (k : Int) < n := by omega
    rw [Int.compare_eq_eq.mpr rfl, Nat.compare_eq_ite_lt, Int.compare_eq_ite_lt]
    simp only [hless, hmore, Ordering.then]
  · rw [Int.compare_eq_gt.mpr hgt, Int.compare_eq_gt.mpr (by omega)]
    rfl

/-- **Numbers compare as their signed magnitudes.** -/
theorem Numeric.compare_eq {s t : Sign} {n k : Nat} {u v : UnpackedFloat} (hu : Numeric s n u)
    (hv : Numeric t k v) : u.compare v = some (compare (s.apply n) (t.apply k)) := by
  rcases hu with _ | _ | ⟨pos, parts, lt, leading, bound⟩ <;>
  rcases hv with _ | _ | ⟨pos', parts', lt', leading', bound'⟩
  case finite.finite m e l f =>
    have hsame := compare_then parts parts' lt lt' leading leading'
    cases s <;> cases t
    · rw [UnpackedFloat.compare, hsame, swap_compare]
      rfl
    · have hless : (-n : Int) < k := by omega
      exact congrArg some (Int.compare_eq_lt.mpr hless).symm
    · have hmore : (-k : Int) < n := by omega
      exact congrArg some (Int.compare_eq_gt.mpr hmore).symm
    · rw [UnpackedFloat.compare, hsame]
      rfl
  case infinity.infinity => cases s <;> cases t <;> decide
  case zero.zero => cases s <;> cases t <;> decide
  -- What is left are pairs of two kinds, in which one side is greater by its kind or its sign.
  all_goals
    cases s <;> cases t <;>
    first
    | exact congrArg some (Int.compare_eq_lt.mpr (by simp only [Sign.apply]; omega)).symm
    | exact congrArg some (Int.compare_eq_gt.mpr (by simp only [Sign.apply]; omega)).symm

/-- Two floats that are numbers compare as their levels do. -/
theorem compare_unpack {x y : Float} (hx : x.isNaN = false) (hy : y.isNaN = false) :
    x.toModel.unpack.compare y.toModel.unpack = some (compare (level x) (level y)) := by
  have hnx := numeric_unpacked (sign x) (magnitude_le hx)
  have hny := numeric_unpacked (sign y) (magnitude_le hy)
  rw [unpack_eq, unpack_eq, hnx.compare_eq hny]
  rfl

/-- **Of two numbers, the lesser has the lower level.** -/
theorem lt_iff {x y : Float} (hx : x.isNaN = false) (hy : y.isNaN = false) :
    x < y ↔ level x < level y := by
  have hlt : x < y ↔ (x.toModel.unpack.compare y.toModel.unpack == some .lt) = true :=
    decide_eq_true_iff
  rw [hlt, compare_unpack hx hy, beq_iff_eq, Option.some_inj, Int.compare_eq_lt]

/-- **Equal numbers have the same level.** -/
theorem beq_iff {x y : Float} (hx : x.isNaN = false) (hy : y.isNaN = false) :
    x == y ↔ level x = level y := by
  show (x.toModel.unpack.compare y.toModel.unpack == some .eq) = true ↔ _
  rw [compare_unpack hx hy, beq_iff_eq, Option.some_inj, Int.compare_eq_eq]

end Courseware.Relevance

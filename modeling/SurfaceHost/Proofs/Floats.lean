import Mathlib.Data.Nat.Log
import SurfaceHost.Number.Word

/-!
# Floating-point numbers

A number of 32 bits is the one that its bits stand for (`ofBits_bits`): a word is put together
again from its sign, its exponent and its mantissa, and unpacking keeps all three.

A duration below one second is a positive number of seconds if it is positive, and none if it
is zero.  A number of seconds is a quotient of floating-point numbers, so this rests on what
rounding does to a mantissa: as long as the exponent is far from the ends of its range, a
positive number stays one, with all the bits of its mantissa in use (`Normal`).
-/

namespace SurfaceHost

open Float.Model Float.Model.UnpackedFloat

/-! ### Words -/

section Words

variable {spec : Format}

theorem unpackSign_components (sign : Sign) (exponent : BitVec spec.exponentBits)
    (mantissa : BitVec spec.mantissaBitsWithoutImplicit) :
  unpackSign (packComponents spec sign exponent mantissa) = sign.toBitVec
  := by
  ext i hi
  obtain rfl : i = 0 := by omega
  unfold unpackSign
  simp +arith [packComponents, BitVec.getElem_append]

/-- The bit that is not written in a word stands before all others. -/
theorem log2_implicit {n : Nat} (b : BitVec n) :
  (1#1 ++ b).toNat.log2 = n
  := by
  have hb := b.isLt
  have hsum : (1#1 ++ b).toNat = 1 <<< n + b.toNat := by
    rw [BitVec.toNat_append, ← Nat.shiftLeft_add_eq_or_of_lt hb]
    rfl
  rw [hsum, Nat.one_shiftLeft, Nat.log2_eq_iff (by omega), Nat.pow_succ]
  omega

/-- A word is made of its sign, its exponent and its mantissa. -/
theorem components_unpack (b : BitVec spec.numBits) :
  packComponents spec (Sign.ofBitVec (unpackSign b)) (unpackExponent b) (unpackMantissa b) = b
  := by
  have hsign (s : BitVec 1) : (Sign.ofBitVec s).toBitVec = s := by decide +revert
  have he := spec.he
  ext i hi
  rw [packComponents, hsign, BitVec.getElem_append]
  split
  · simp [unpackMantissa, BitVec.getLsbD_eq_getElem hi]
  · rw [BitVec.getElem_append]
    split
    · rename_i hlow hhigh
      simp [unpackExponent, Nat.add_sub_of_le (Nat.le_of_not_lt hlow), BitVec.getLsbD_eq_getElem hi]
    · rename_i hlow hhigh
      obtain rfl : i = spec.mantissaBitsWithoutImplicit + spec.exponentBits := by
        simp only [Format.numBits] at hi
        omega
      unfold unpackSign
      simp [BitVec.getLsbD_eq_getElem hi]

theorem mantissaBits_single :
  Format.mantissaBits .binary32 = 24
  := rfl

theorem mantissaBits_double :
  Format.mantissaBits .binary64 = 53
  := rfl

theorem unpack_of_normal {b : BitVec spec.numBits} (hlast : unpackExponent b ≠ -1#_)
    (hfirst : unpackExponent b ≠ 0#_) :
  ∃ hpos, UnpackedFloat.unpack spec b =
    .finite (Sign.ofBitVec (unpackSign b)) (1#1 ++ unpackMantissa b).toNat
      ((unpackExponent b).toNat - (spec.exponentBias + spec.mantissaBitsWithoutImplicit)) hpos
  := by
  have hpos : 0 < (1#1 ++ unpackMantissa b).toNat := by simp
  use hpos
  unfold UnpackedFloat.unpack
  dsimp only
  rw [if_neg hlast, if_neg hfirst]

/-! The five kinds of words of 32 bits, by the first, the last and the other exponents. -/

section Single

variable {b : BitVec (Format.numBits .binary32)}

theorem pack_unpack_of_last (hvalid : Format.Valid .binary32 b)
    (hlast : unpackExponent b = -1#8) :
  UnpackedFloat.pack .binary32 (UnpackedFloat.unpack .binary32 b) = b
  := by
  unfold UnpackedFloat.unpack
  rw [if_pos hlast]
  by_cases hzero : unpackMantissa b = 0#23
  · rw [if_pos hzero]
    refine Eq.trans ?_ (components_unpack b)
    rw [hlast, hzero]
    rfl
  · rw [if_neg hzero]
    exact (hvalid.eq_packedNaN hlast hzero).symm

theorem pack_unpack_of_first (hfirst : unpackExponent b = 0#8) :
  UnpackedFloat.pack .binary32 (UnpackedFloat.unpack .binary32 b) = b
  := by
  refine Eq.trans ?_ (components_unpack b)
  unfold UnpackedFloat.unpack
  rw [if_neg (by rw [hfirst]; decide), if_pos hfirst]
  by_cases hzero : unpackMantissa b = 0#23
  · rw [dif_pos hzero, hfirst, hzero]
    rfl
  · have hlog : (unpackMantissa b).toNat.log2 < 23 := by
      rw [Nat.log2_lt (by simpa using BitVec.toNat_ne.mp hzero)]
      exact (unpackMantissa b).isLt
    rw [dif_neg hzero]
    unfold UnpackedFloat.pack
    dsimp only
    rw [hfirst, if_neg (by decide), if_neg, BitVec.ofNat_toNat, BitVec.setWidth_eq]
    rw [mantissaBits_single]
    omega

theorem pack_unpack_of_normal (hlast : unpackExponent b ≠ -1#8)
    (hfirst : unpackExponent b ≠ 0#8) :
  UnpackedFloat.pack .binary32 (UnpackedFloat.unpack .binary32 b) = b
  := by
  have hlt : (unpackExponent b).toNat < 256 := (unpackExponent b).isLt
  have hne : (unpackExponent b).toNat ≠ 255 := by
    intro h
    apply hlast (BitVec.eq_of_toNat_eq h)
  have hbiased : (((unpackExponent b).toNat : Int)
      - ((Format.exponentBias .binary32 : Int) + (23 : Nat))
      + (Format.exponentBias .binary32 : Int) + (23 : Nat)).toNat = (unpackExponent b).toNat := by
    omega
  have hmantissa : BitVec.ofNat 23 (1#1 ++ unpackMantissa b).toNat = unpackMantissa b := by
    rw [BitVec.ofNat_toNat, BitVec.setWidth_append]
    simp
  obtain ⟨hpos, hunpack⟩ := unpack_of_normal hlast hfirst
  refine Eq.trans ?_ (components_unpack b)
  rw [hunpack]
  unfold UnpackedFloat.pack
  dsimp only
  rw [log2_implicit, hbiased, hmantissa,
    if_neg (show ¬256 ≤ (unpackExponent b).toNat + 1 by omega), if_pos (by rfl),
    BitVec.ofNat_toNat, BitVec.setWidth_eq]

/-- Unpacking loses nothing of a word, unless it is one of many for what is no number. -/
theorem pack_unpack_single (hvalid : Format.Valid .binary32 b) :
  UnpackedFloat.pack .binary32 (UnpackedFloat.unpack .binary32 b) = b
  := by
  by_cases hlast : unpackExponent b = -1#8
  · apply pack_unpack_of_last hvalid hlast
  · by_cases hfirst : unpackExponent b = 0#8
    · apply pack_unpack_of_first hfirst
    · apply pack_unpack_of_normal hlast hfirst

end Single

/-- The bits of a number stand for it. -/
theorem ofBits_bits (x : Float32) :
  Float32.ofBits x.toBits = x
  := by
  obtain ⟨⟨bits, hvalid⟩⟩ := x
  have hbits : UInt32.ofBitVec (UnpackedFloat.pack .binary32
      (UnpackedFloat.unpack .binary32 bits.toBitVec)) = bits := by
    rw [pack_unpack_single hvalid]
  change Float32.ofModel ⟨UInt32.ofBitVec (UnpackedFloat.pack .binary32
      (UnpackedFloat.unpack .binary32 bits.toBitVec)), _⟩ = _
  congr

end Words

/-! ### Rounding -/

/-- A positive number whose mantissa uses all its bits, with an exponent not farther from zero
than a bound. -/
def Normal (bound : Int) (u : UnpackedFloat) : Prop :=
  ∃ m e h, u = .finite .positive m e h ∧ m.log2 = 52 ∧ -bound ≤ e ∧ e ≤ bound

theorem ne_zero_of_log2 {m k : Nat} (h : k < m.log2) :
  m ≠ 0
  := by
  rintro rfl
  simp at h

theorem log2_le_log2 {m n : Nat} (h : m ≤ n) :
  m.log2 ≤ n.log2
  := by
  rw [Nat.log2_eq_log_two, Nat.log2_eq_log_two]
  apply Nat.log_mono_right h

theorem log2_shiftRight (m k : Nat) :
  (m >>> k).log2 = m.log2 - k
  := by
  rw [Nat.log2_eq_log_two, Nat.log2_eq_log_two, Nat.shiftRight_eq_div_pow, Nat.log_div_base_pow]

theorem log2_shiftLeft {m : Nat} (hm : m ≠ 0) (k : Nat) :
  (m <<< k).log2 = m.log2 + k
  := by
  induction k with
  | zero => rfl
  | succ k ih =>
    have hne : m <<< k ≠ 0 := by simp [hm]
    rw [Nat.shiftLeft_succ, Nat.log2_two_mul hne, ih]
    rfl

theorem mantissa_shiftRight (a : ExtendedMantissa) (k : Nat) :
  (a >>> k).mantissa = a.mantissa >>> k
  := by
  induction k with
  | zero => rfl
  | succ k ih =>
    rw [Nat.shiftRight_succ, ← ih]
    rfl

/-- Rounding keeps a mantissa or makes it greater by one. -/
theorem roundedMantissa_bounds (a : ExtendedMantissa) :
  a.mantissa ≤ a.roundedMantissa ∧ a.roundedMantissa ≤ a.mantissa + 1
  := by
  obtain ⟨m, round, sticky⟩ := a
  cases round <;> cases sticky <;>
    simp only [ExtendedMantissa.roundedMantissa, ExtendedMantissa.accuracy,
      Accuracy.roundToNearestEven] <;> omega

theorem mantissa_ofMantissaAndAccuracy (m : Nat) (accuracy : Accuracy) :
  (ExtendedMantissa.ofMantissaAndAccuracy m accuracy).mantissa = m
  := by
  rcases accuracy with _ | (_ | _ | _) <;> rfl

/-- Shifting to the target brings a long mantissa to the bits that there are. -/
theorem shiftToTargetExponent_eq {m : Nat} {e : Int} (hm : 52 ≤ m.log2) (he : -1000 ≤ e)
    (accuracy : Accuracy) :
  (shiftToTargetExponent .binary64 m e accuracy).1.mantissa = m >>> (m.log2 - 52)
    ∧ (shiftToTargetExponent .binary64 m e accuracy).2 = e + (m.log2 - 52 : Nat)
  := by
  have htarget : (Format.targetExponent .binary64 (totalExponent m e) - e).toNat
      = m.log2 - 52 := by
    simp only [Format.targetExponent, totalExponent, mantissaBits_double, Format.minExponent]
    omega
  rw [shiftToTargetExponent, shiftToExponent, htarget, mantissa_shiftRight,
    mantissa_ofMantissaAndAccuracy]
  exact ⟨rfl, rfl⟩

/-- Rounding a mantissa that has all its bits gives one with as many, or with one bit more. -/
theorem log2_roundedMantissa {a : ExtendedMantissa} (ha : a.mantissa.log2 = 52) :
  52 ≤ a.roundedMantissa.log2 ∧ a.roundedMantissa.log2 ≤ 53
  := by
  have hne : a.mantissa ≠ 0 := ne_zero_of_log2 (k := 51) (by omega)
  obtain ⟨hlow, hhigh⟩ := roundedMantissa_bounds a
  constructor
  · rw [← ha]
    apply log2_le_log2 hlow
  · have hdouble : a.roundedMantissa ≤ 2 * a.mantissa := by omega
    have hlog := log2_le_log2 hdouble
    rw [Nat.log2_two_mul hne, ha] at hlog
    apply hlog

/-- A number with enough bits is rounded to one that uses all the bits of the mantissa. -/
theorem normal_roundWithAccuracy (bound : Int) {e : Int} {m : Nat} (hm : 52 ≤ m.log2)
    (hlog : m.log2 ≤ 110) (hlow : -bound ≤ e) (hhigh : e ≤ bound) (hbound : bound ≤ 800)
    (accuracy : Accuracy) :
  Normal (bound + 60) (roundWithAccuracy .binary64 .positive m e accuracy)
  := by
  rw [roundWithAccuracy]
  have he : -1000 ≤ e := by omega
  obtain ⟨hmantissa, hexponent⟩ := shiftToTargetExponent_eq hm he accuracy
  generalize shiftToTargetExponent .binary64 m e accuracy = first at hmantissa hexponent
  obtain ⟨a, e'⟩ := first
  dsimp only at hmantissa hexponent ⊢
  have hbits : a.mantissa.log2 = 52 := by
    rw [hmantissa, log2_shiftRight]
    omega
  obtain ⟨hrounded, hrounded'⟩ := log2_roundedMantissa hbits
  have he' : -1000 ≤ e' := by omega
  obtain ⟨hmantissa', hexponent'⟩ := shiftToTargetExponent_eq hrounded he' .exact
  generalize shiftToTargetExponent .binary64 a.roundedMantissa e' .exact = second
    at hmantissa' hexponent'
  obtain ⟨b, e''⟩ := second
  dsimp only at hmantissa' hexponent' ⊢
  have hbits' : b.mantissa.log2 = 52 := by
    rw [hmantissa', log2_shiftRight]
    omega
  have hne : b.mantissa ≠ 0 := ne_zero_of_log2 (k := 51) (by omega)
  rw [dif_neg hne]
  exact ⟨b.mantissa, e'', _, rfl, hbits', by omega, by omega⟩

/-! ### Words of 64 bits -/

theorem unpack_model (u : UnpackedFloat) :
  (Float.Model.pack u).unpack =
    UnpackedFloat.unpack .binary64 (UnpackedFloat.pack .binary64 u)
  := rfl

/-- Such a number is not lost when it is put into a word. -/
theorem Normal.unpack_pack {bound : Int} {u : UnpackedFloat} (h : Normal bound u)
    (hbound : bound ≤ 900) :
  Normal bound (Float.Model.pack u).unpack
  := by
  obtain ⟨m, e, hm, rfl, hlog, hlow, hhigh⟩ := h
  have hbiased : (e + (Format.exponentBias .binary64 : Int) + (52 : Nat)).toNat
      = (e + 1075).toNat := by
    simp only [Format.exponentBias]
    omega
  have hpack : UnpackedFloat.pack .binary64 (.finite .positive m e hm) =
      packComponents .binary64 .positive (BitVec.ofNat 11 (e + 1075).toNat)
        (BitVec.ofNat 52 m) := by
    unfold UnpackedFloat.pack
    dsimp only
    rw [hlog, hbiased, if_neg (by omega), if_pos (by rfl)]
  have hexponent : (BitVec.ofNat 11 (e + 1075).toNat).toNat = (e + 1075).toNat := by
    rw [BitVec.toNat_ofNat]
    omega
  have hfinite : BitVec.ofNat 11 (e + 1075).toNat ≠ -1#11 := by
    rw [BitVec.toNat_ne, hexponent]
    change (e + 1075).toNat ≠ 2047
    omega
  have hnormal : BitVec.ofNat 11 (e + 1075).toNat ≠ 0#11 := by
    rw [BitVec.toNat_ne, hexponent]
    change (e + 1075).toNat ≠ 0
    omega
  rw [unpack_model, hpack]
  generalize hb : packComponents .binary64 .positive (BitVec.ofNat 11 (e + 1075).toNat)
    (BitVec.ofNat 52 m) = b
  have hparts : unpackExponent b = BitVec.ofNat 11 (e + 1075).toNat := by
    rw [← hb, unpackExponent_packComponents]
  have hsign : unpackSign b = 0#1 := by
    rw [← hb, unpackSign_components]
    rfl
  obtain ⟨hpos, hunpack⟩ := unpack_of_normal (b := b) (by rwa [hparts]) (by rwa [hparts])
  rw [hunpack, hsign]
  refine ⟨_, _, hpos, rfl, log2_implicit _, ?_, ?_⟩
  all_goals rw [hparts, hexponent]
  · simp only [Format.exponentBias]
    omega
  · simp only [Format.exponentBias]
    omega

/-- A product with one is rounded like any other, and stays positive. -/
theorem Normal.mul_one {bound : Int} {u : UnpackedFloat} (h : Normal bound u)
    (hbound : bound ≤ 700) :
  Normal (bound + 120)
    (UnpackedFloat.mul .binary64 u (.finite .positive (1 <<< 52) (-52) (by decide)))
  := by
  obtain ⟨m, e, hm, rfl, hlog, hlow, hhigh⟩ := h
  have hproduct : m * 1 <<< 52 = m <<< 52 := by
    rw [Nat.shiftLeft_eq, Nat.shiftLeft_eq, Nat.one_mul]
  have hlog' : (m * 1 <<< 52).log2 = 104 := by
    rw [hproduct, log2_shiftLeft (Nat.ne_of_gt hm), hlog]
  rw [show bound + 120 = bound + 60 + 60 by omega]
  apply normal_roundWithAccuracy (bound + 60)
  all_goals omega

/-- A billionth of a number is not so small that it is rounded to zero. -/
theorem Normal.div_billion {bound : Int} {u : UnpackedFloat} (h : Normal bound u)
    (hbound : bound ≤ 700) :
  Normal (bound + 120)
    (UnpackedFloat.div .binary64 u (.finite .positive 8388608000000000 (-23) (by decide)))
  := by
  obtain ⟨m, e, hm, rfl, hlog, hlow, hhigh⟩ := h
  have hcore : divCore .binary64 m e 8388608000000000 (-23) =
      ((m <<< 53) / 8388608000000000, e - 30,
        accuracyOfFraction ((m <<< 53) % 8388608000000000) 8388608000000000) := by
    have hbillion : Nat.log2 8388608000000000 = 52 := by decide +kernel
    have htarget : min (e - -23) (Format.targetExponent .binary64
        (totalExponent m e - totalExponent 8388608000000000 (-23))) = e - 30 := by
      simp only [Format.targetExponent, totalExponent, hlog, hbillion, mantissaBits_double,
        Format.minExponent]
      omega
    have hshift : (e - -23 - (e - 30)).toNat = 53 := by omega
    simp only [divCore, htarget, hshift]
  -- The quotient has as many bits as the dividend, or one bit more.
  have hquotient : m ≤ (m <<< 53) / 8388608000000000 ∧ (m <<< 53) / 8388608000000000 ≤ 2 * m := by
    rw [Nat.shiftLeft_eq]
    omega
  have hlow' := log2_le_log2 hquotient.1
  have hhigh' := log2_le_log2 hquotient.2
  rw [Nat.log2_two_mul (Nat.ne_of_gt hm)] at hhigh'
  rw [show bound + 120 = bound + 60 + 60 by omega]
  unfold UnpackedFloat.div
  dsimp only
  rw [hcore]
  dsimp only
  apply normal_roundWithAccuracy (bound + 60)
  all_goals omega

theorem Normal.zero_add {bound : Int} {u : UnpackedFloat} (h : Normal bound u) :
  UnpackedFloat.add .binary64 (.zero .positive) u = u
  := by
  obtain ⟨m, e, hm, rfl, -⟩ := h
  rfl

/-- A positive number that fits into the mantissa is shifted to use all its bits. -/
theorem normal_ofNat {n : Nat} (hn : n ≠ 0) (hlog : n.log2 ≤ 52) :
  Normal 112 (UnpackedFloat.ofNat .binary64 n)
  := by
  have hcompare : compare (n : Int) 0 = .gt := Int.compare_eq_gt.mpr (by omega)
  have htarget : Format.targetExponent .binary64 (totalExponent n 0) = (n.log2 : Int) - 52 := by
    simp only [Format.targetExponent, totalExponent, mantissaBits_double, Format.minExponent]
    omega
  have hshift : (0 - ((n.log2 : Int) - 52)).toNat = 52 - n.log2 := by omega
  have hlog' : (n <<< (52 - n.log2)).log2 = 52 := by
    rw [log2_shiftLeft hn]
    omega
  simp only [UnpackedFloat.ofNat, UnpackedFloat.ofInt, UnpackedFloat.normalize, hcompare,
    Int.toNat_natCast, UnpackedFloat.round, htarget, decreaseExponent, hshift]
  apply normal_roundWithAccuracy 52
  all_goals omega

/-! ### Numbers of seconds -/

theorem unpack_mul (x y : Float) :
  (x * y).toModel.unpack =
    (Float.Model.pack
      (UnpackedFloat.mul .binary64 x.toModel.unpack y.toModel.unpack)).unpack
  := rfl

theorem unpack_div (x y : Float) :
  (x / y).toModel.unpack =
    (Float.Model.pack
      (UnpackedFloat.div .binary64 x.toModel.unpack y.toModel.unpack)).unpack
  := rfl

theorem unpack_add (x y : Float) :
  (x + y).toModel.unpack =
    (Float.Model.pack
      (UnpackedFloat.add .binary64 x.toModel.unpack y.toModel.unpack)).unpack
  := rfl

theorem unpack_toFloat {n : Nat} (hn : n < 1000000000) :
  n.toUInt64.toFloat.toModel.unpack =
    (Float.Model.pack (UnpackedFloat.ofNat .binary64 n)).unpack
  := by
  have hword : n.toUInt64.toNat = n := by
    simp only [UInt64.toNat_ofNat']
    omega
  have hfloat : n.toUInt64.toFloat.toModel.unpack =
      (Float.Model.pack (UnpackedFloat.ofNat .binary64 n.toUInt64.toNat)).unpack := rfl
  rw [hfloat, hword]

/-- A small number is converted through a word and a power of ten, which is one. -/
theorem ofInt_eq {n : Nat} (hn : n < 1000000000) :
  Float.ofInt n = n.toUInt64.toFloat * Float.ofBits 4607182418800017408
  := by
  have hscientific : Float.ofInt n = Float.ofScientific n false 0 := rfl
  rw [hscientific, Float.ofScientific, dif_pos ⟨by omega, by omega⟩]
  rfl

theorem normal_ofInt {n : Nat} (hn : n ≠ 0) (hlt : n < 1000000000) :
  Normal (112 + 120) (Float.ofInt n).toModel.unpack
  := by
  have hlog : n.log2 ≤ 52 := by
    have hlog : n.log2 < 53 := (Nat.log2_lt hn).mpr (by omega)
    omega
  have hone : (Float.ofBits 4607182418800017408).toModel.unpack =
      .finite .positive (1 <<< 52) (-52) (by decide) := rfl
  have hnumber := (normal_ofNat hn hlog).unpack_pack (by omega)
  rw [ofInt_eq hlt, unpack_mul, unpack_toFloat hlt, hone]
  apply (hnumber.mul_one (by omega)).unpack_pack (by omega)

/-- A positive number is not at most zero. -/
theorem Normal.not_le_zero {bound : Int} {x : Float} (h : Normal bound x.toModel.unpack) :
  ¬x ≤ 0
  := by
  obtain ⟨m, e, hm, hx, -⟩ := h
  intro hle
  have hcompare : x.toModel.unpack.le (0 : Float).toModel.unpack = true := of_decide_eq_true hle
  rw [hx] at hcompare
  cases hcompare

namespace Duration

theorem seconds_zero :
  (0 : Duration).seconds ≤ 0
  := by
  decide +kernel

/-- A positive duration below one second is a positive number of seconds. -/
theorem not_seconds_le_zero {d : Duration} (hpos : 0 < d.toInt) (hlt : d.toInt < 1000000000) :
  ¬d.seconds ≤ 0
  := by
  have hwhole : (d / 1000000000).toInt = 0 := by
    rw [Int64.toInt_div_of_ne_right _ _ (by simp)]
    apply Int.tdiv_eq_zero_of_lt (Int.le_of_lt hpos) hlt
  have hrest : (d % 1000000000).toInt = d.toInt.toNat := by
    rw [Int64.toInt_mod]
    apply (Int.tmod_eq_of_lt (Int.le_of_lt hpos) hlt).trans
    omega
  have hnone : (Float.ofInt 0).toModel.unpack = .zero .positive := by
    rfl
  have hbillion : (1000000000.0 : Float).toModel.unpack =
      .finite .positive 8388608000000000 (-23) (by decide) := rfl
  have hquotient : Normal (112 + 120 + 120)
      (Float.ofInt d.toInt.toNat / 1000000000.0).toModel.unpack := by
    have hnumber : Normal (112 + 120) (Float.ofInt d.toInt.toNat).toModel.unpack :=
      normal_ofInt (by omega) (by omega)
    rw [unpack_div, hbillion]
    apply (hnumber.div_billion (by omega)).unpack_pack (by omega)
  have hsum : Normal (112 + 120 + 120) d.seconds.toModel.unpack := by
    rw [seconds, hwhole, hrest, unpack_add, hnone, hquotient.zero_add]
    apply hquotient.unpack_pack (by omega)
  apply hsum.not_le_zero

end Duration

end SurfaceHost

import Mathlib
import ReceiptRules.Decimal.Basic

/-!
# Rounded and packed doubles

What Lean's own model of doubles does with a mantissa and an exponent, as far as whole numbers need it:
a mantissa of at least 53 bits is rounded to 53 (`roundWithAccuracy_normal`), packing keeps a number
that is in range (`unpack_pack_finite`), and the fields of a double are the mantissa and the exponent
that were packed (`ofFloat_of_unpack`).
-/

namespace ReceiptRules.Double

open Float.Model Float.Model.UnpackedFloat

/-! ## Rounding -/

/-- A mantissa and an exponent that a normal double holds as they are. -/
structure Normal (m : ℕ) (e : ℤ) : Prop where
  le_mantissa : 2 ^ 52 ≤ m
  mantissa_lt : m < 2 ^ 53
  le_exponent : -1074 ≤ e
  exponent_le : e ≤ 971

theorem log2_eq {m : ℕ} (hl : 2 ^ 52 ≤ m) (hu : m < 2 ^ 53) : m.log2 = 52 :=
  (Nat.log2_eq_iff (by omega)).mpr ⟨hl, hu⟩

theorem mantissa_shiftRight (em : ExtendedMantissa) (k : ℕ) :
    (em >>> k).mantissa = em.mantissa / 2 ^ k := by
  induction k with
  | zero => simp [HShiftRight.hShiftRight, Nat.repeat]
  | succ k ih =>
    have hstep : em >>> (k + 1) = (em >>> k).shiftRightOne := rfl
    rw [hstep, ExtendedMantissa.shiftRightOne, ih, Nat.div_div_eq_div_mul, pow_succ]

theorem roundedMantissa_eq (em : ExtendedMantissa) :
    em.roundedMantissa = em.mantissa ∨ em.roundedMantissa = em.mantissa + 1 := by
  obtain ⟨m, round, sticky⟩ := em
  cases round <;> cases sticky <;>
    simp [ExtendedMantissa.roundedMantissa, ExtendedMantissa.accuracy, Accuracy.roundToNearestEven]
  omega

theorem targetExponent_eq (m : ℕ) (e : ℤ) (h : -1022 ≤ m.log2 + e) :
    Format.binary64.targetExponent (totalExponent m e) = m.log2 + e - 52 := by
  simp only [Format.targetExponent, totalExponent, Format.mantissaBits, Format.minExponent]
  omega

/-- Shifting a mantissa of at least 53 bits leaves 53 of them. -/
theorem shiftToTargetExponent_eq (m : ℕ) (e : ℤ) (hm : 52 ≤ m.log2) (h : -1022 ≤ m.log2 + e) :
    shiftToTargetExponent Format.binary64 m e .exact =
      ((ExtendedMantissa.mk m false false) >>> (m.log2 - 52), m.log2 + e - 52) := by
  unfold shiftToTargetExponent shiftToExponent
  rw [targetExponent_eq m e h]
  have hk : ((m.log2 : ℤ) + e - 52 - e).toNat = m.log2 - 52 := by omega
  simp only [hk, ExtendedMantissa.ofMantissaAndAccuracy]
  congr 1
  omega

/-- Rounding to 53 bits: the mantissa has 53 bits, and the exponent is that of the leading bit, or one
more where all ones are rounded up. -/
theorem roundWithAccuracy_normal (s : Sign) (m : ℕ) (e : ℤ) (hm : 2 ^ 52 ≤ m)
    (h : -1022 ≤ m.log2 + e) :
    ∃ m' e' h', roundWithAccuracy Format.binary64 s m e .exact = .finite s m' e' h' ∧
      2 ^ 52 ≤ m' ∧ m' < 2 ^ 53 ∧ m.log2 + e - 52 ≤ e' ∧ e' ≤ m.log2 + e - 51 := by
  have hlog : 52 ≤ m.log2 := (Nat.le_log2 (by omega)).mpr hm
  set em : ExtendedMantissa := (ExtendedMantissa.mk m false false) >>> (m.log2 - 52) with hem
  have hq : em.mantissa = m / 2 ^ (m.log2 - 52) := by rw [hem, mantissa_shiftRight]
  have hsplit : 2 ^ m.log2 = 2 ^ 52 * 2 ^ (m.log2 - 52) := by
    rw [← pow_add]; congr 1; omega
  have hlow : 2 ^ 52 ≤ em.mantissa := by
    rw [hq, Nat.le_div_iff_mul_le (by positivity), ← hsplit]
    exact Nat.log2_self_le (by omega)
  have hhigh : em.mantissa < 2 ^ 53 := by
    rw [hq, Nat.div_lt_iff_lt_mul (by positivity)]
    have := Nat.lt_log2_self (n := m)
    calc m < 2 ^ (m.log2 + 1) := this
      _ = 2 ^ 53 * 2 ^ (m.log2 - 52) := by rw [pow_succ, hsplit]; ring
  have hr := roundedMantissa_eq em
  unfold roundWithAccuracy
  rw [shiftToTargetExponent_eq m e hlog h, ← hem]
  by_cases hcarry : em.roundedMantissa = 2 ^ 53
  · have hlog' : (2 ^ 53 : ℕ).log2 = 53 := by decide
    have hshift := shiftToTargetExponent_eq (2 ^ 53) (m.log2 + e - 52) (by omega) (by omega)
    simp only [hcarry, hshift, mantissa_shiftRight, hlog']
    refine ⟨2 ^ 52, m.log2 + e - 51, by positivity, ?_, le_rfl, by omega, by omega, le_rfl⟩
    norm_num
    omega
  · have hlog' : em.roundedMantissa.log2 = 52 := log2_eq (by omega) (by omega)
    have hshift := shiftToTargetExponent_eq em.roundedMantissa (m.log2 + e - 52) (by omega) (by omega)
    simp only [hshift, mantissa_shiftRight, hlog']
    refine ⟨em.roundedMantissa, m.log2 + e - 52, by omega, ?_, by omega, by omega, by omega, by omega⟩
    have hne : em.roundedMantissa ≠ 0 := by omega
    simp [hne]

/-! ## Packing -/

theorem toNat_leadingBit_append (v : BitVec 52) : (1#1 ++ v).toNat = 2 ^ 52 + v.toNat := by
  rw [BitVec.toNat_append, ← Nat.shiftLeft_add_eq_or_of_lt v.isLt]
  simp [Nat.shiftLeft_eq]

theorem unpack_pack_finite (s : Sign) {m : ℕ} {e : ℤ} (hn : Normal m e) (h : 0 < m) :
    (Float.Model.pack (.finite s m e h)).unpack = .finite s m e h := by
  obtain ⟨hl, hu, hel, heu⟩ := hn
  have hlog : m.log2 = 52 := log2_eq hl hu
  set biased : ℕ := (e + 1075).toNat with hb
  have hbiased : (biased : ℤ) = e + 1075 := by omega
  have hbits : (BitVec.ofNat 11 biased).toNat = biased := by
    rw [BitVec.toNat_ofNat, Nat.mod_eq_of_lt (by omega)]
  have hones : BitVec.ofNat 11 biased ≠ -1#11 := by
    intro heq
    have := congrArg BitVec.toNat heq
    rw [hbits] at this
    simp at this
    omega
  have hzero : BitVec.ofNat 11 biased ≠ 0#11 := by
    intro heq
    have := congrArg BitVec.toNat heq
    rw [hbits] at this
    simp at this
    omega
  have hpack : UnpackedFloat.pack Format.binary64 (.finite s m e h) =
      packComponents Format.binary64 s (BitVec.ofNat 11 biased) (BitVec.ofNat 52 m) := by
    have hexp : (e + (Format.binary64.exponentBias : ℤ) + (52 : ℕ)).toNat = biased := by
      simp only [Format.exponentBias, hb]
      omega
    simp only [UnpackedFloat.pack, hexp, hlog, Format.mantissaBits]
    rw [if_neg (by omega), if_pos (by decide)]
  have hmant : (1#1 ++ BitVec.ofNat 52 m).toNat = m := by
    rw [toNat_leadingBit_append, BitVec.toNat_ofNat]
    omega
  unfold Float.Model.unpack Float.Model.pack
  simp only [hpack]
  unfold UnpackedFloat.unpack
  simp only [unpackExponent_packComponents, unpackMantissa_packComponents, unpackSign_packComponents,
    hones, hzero, if_false, Sign.ofBitVec_toBitVec, hbits, hmant]
  congr 1
  simp [Format.exponentBias]
  omega

theorem unpack_packedInfinity (s : Sign) :
    UnpackedFloat.unpack Format.binary64 (packedInfinity Format.binary64 s) = .infinity s := by
  unfold UnpackedFloat.unpack packedInfinity
  simp

theorem unpack_pack_overflow (s : Sign) {m : ℕ} {e : ℤ} (h : 0 < m) (he : 971 < e) :
    (Float.Model.pack (.finite s m e h)).unpack = .infinity s := by
  have hexp : 2 ^ 11 ≤ (e + ((2 ^ (11 - 1) - 1 : ℕ) : ℤ) + (52 : ℕ)).toNat + 1 := by omega
  have hpack : UnpackedFloat.pack Format.binary64 (.finite s m e h) =
      packedInfinity Format.binary64 s := if_pos hexp
  unfold Float.Model.unpack Float.Model.pack
  simp only [hpack]
  exact unpack_packedInfinity s

theorem isFinite_ofModel_pack {s : Sign} {m : ℕ} {e : ℤ} {h : 0 < m} (hn : Normal m e) :
    (Float.ofModel (.pack (.finite s m e h))).isFinite = true := by
  change (Float.Model.unpack _).isFinite = true
  rw [unpack_pack_finite s hn]
  rfl

/-- Negation changes the sign only. -/
theorem neg_ofModel_pack {s : Sign} {m : ℕ} {e : ℤ} {h : 0 < m} (hn : Normal m e) :
    -Float.ofModel (.pack (.finite s m e h)) = .ofModel (.pack (.finite (-s) m e h)) := by
  change Float.ofModel (.pack (Float.Model.unpack _).neg) = _
  rw [unpack_pack_finite s hn]
  rfl

/-! ## Taking doubles apart -/

theorem toNat_unpackExponent (b : BitVec Format.binary64.numBits) :
    (unpackExponent b).toNat = b.toNat / 0x10_0000_0000_0000 % 0x800 := by
  simp [unpackExponent, Nat.shiftRight_eq_div_pow]

theorem toNat_unpackMantissa (b : BitVec Format.binary64.numBits) :
    (unpackMantissa b).toNat = b.toNat % 0x10_0000_0000_0000 := by
  simp [unpackMantissa]

/-- The mantissa and the exponent of a finite double other than zero. -/
theorem ofFloat_of_unpack {x : Float} {s : Sign} {m : ℕ} {e : ℤ} {h : 0 < m}
    (hx : x.toModel.unpack = .finite s m e h) :
    (Binary.ofFloat x).mantissa = m ∧ (Binary.ofFloat x).exponent = e := by
  have hE := toNat_unpackExponent x.toModel.toBits.toBitVec
  have hM := toNat_unpackMantissa x.toModel.toBits.toBitVec
  have hbits : x.toBits.toNat = x.toModel.toBits.toBitVec.toNat := rfl
  simp only [Binary.ofFloat, Binary.fields, Binary.leadingBit, hbits]
  unfold Float.Model.unpack UnpackedFloat.unpack at hx
  dsimp only at hx
  split at hx
  · split at hx <;> cases hx
  · next hinf =>
    split at hx
    · next hsub =>
      split at hx
      · cases hx
      · have hzero : x.toModel.toBits.toBitVec.toNat / 0x10_0000_0000_0000 % 0x800 = 0 := by
          rw [← hE, hsub]; rfl
        rw [if_pos hzero]
        cases hx
        refine ⟨hM.symm, ?_⟩
        rw [hsub]
        rfl
    · next hnormal =>
      have hzero : x.toModel.toBits.toBitVec.toNat / 0x10_0000_0000_0000 % 0x800 ≠ 0 := by
        intro hz
        apply hnormal
        apply BitVec.eq_of_toNat_eq
        rw [hE, hz]
        rfl
      rw [if_neg hzero]
      cases hx
      refine ⟨?_, ?_⟩
      · rw [toNat_leadingBit_append, hM]; rfl
      · simp only [hE, Format.exponentBias]; omega

end ReceiptRules.Double

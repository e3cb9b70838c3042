import ReceiptRules.Json.Basic
import ReceiptRules.Proofs.Double.Rounding

/-!
# Doubles nearest to whole numbers

A whole number of 64 bits has a finite nearest double (`ofInt_isFinite`), and one beyond 64 bits has a
large or an infinite one (`ofInt_large`).
-/

namespace ReceiptRules.Double

open Float.Model Float.Model.UnpackedFloat

/-- The bits of one, by which `Float.ofNat` multiplies a whole number that fits a mantissa. -/
theorem unpack_one :
    (Float.ofBits 0x3FF0000000000000).toModel.unpack =
      .finite .positive (2 ^ 52) (-52) (Nat.two_pow_pos 52) :=
  rfl

theorem ofNat_of_lt {n : ℕ} (h : n < 2 ^ 53) :
    Float.ofNat n = n.toUInt64.toFloat * Float.ofBits 0x3FF0000000000000 := by
  change Float.ofScientific n false 0 = _
  rw [Float.ofScientific, dif_pos ⟨h, by omega⟩]
  rfl

theorem ofNat_of_le {n : ℕ} (h : 2 ^ 53 ≤ n) :
    Float.ofNat n = .ofModel (Float.Model.ofScientific n 0) := by
  change Float.ofScientific n false 0 = _
  rw [Float.ofScientific, dif_neg (by omega)]
  rfl

theorem log2_mul_two_pow {n : ℕ} (h : 0 < n) (k : ℕ) : (n * 2 ^ k).log2 = n.log2 + k := by
  refine (Nat.log2_eq_iff (by positivity)).mpr ⟨?_, ?_⟩
  · rw [pow_add]
    exact Nat.mul_le_mul_right _ (Nat.log2_self_le h.ne')
  · calc n * 2 ^ k < 2 ^ (n.log2 + 1) * 2 ^ k :=
          Nat.mul_lt_mul_of_pos_right Nat.lt_log2_self (by positivity)
      _ = 2 ^ (n.log2 + k + 1) := by rw [← pow_add]; congr 1; omega

theorem ofUInt64_eq {n : ℕ} (hpos : 0 < n) (h : n < 2 ^ 53) :
    ∃ m e h', n.toUInt64.toFloat = .ofModel (.pack (.finite .positive m e h')) ∧
      2 ^ 52 ≤ m ∧ m < 2 ^ 53 ∧ n.log2 - 52 ≤ e ∧ e ≤ n.log2 - 51 := by
  have hlog : n.log2 < 53 := (Nat.log2_lt (by omega)).mpr h
  have hto : n.toUInt64.toNat = n := by
    simp; omega
  have hcompare : compare (n : ℤ) 0 = .gt := by
    simp [compare_gt_iff_gt]; omega
  have hshift : (0 - ((n.log2 : ℤ) + 0 - 52)).toNat = 52 - n.log2 := by omega
  have hlog' := log2_mul_two_pow hpos (52 - n.log2)
  have hle : 2 ^ 52 ≤ n * 2 ^ (52 - n.log2) := by
    have := Nat.log2_self_le (n := n * 2 ^ (52 - n.log2)) (by positivity)
    rwa [hlog', Nat.add_sub_cancel' (by omega)] at this
  obtain ⟨m, e, h', hround, hm, hm', he, he'⟩ :=
    roundWithAccuracy_normal .positive (n * 2 ^ (52 - n.log2)) (n.log2 - 52) hle (by omega)
  refine ⟨m, e, h', ?_, hm, hm', by omega, by omega⟩
  unfold UInt64.toFloat Float.Model.ofUInt64 UnpackedFloat.ofUInt64 UnpackedFloat.ofNat
    UnpackedFloat.ofInt
  rw [hto, UnpackedFloat.normalize, hcompare]
  simp only [UnpackedFloat.round, Int.toNat_natCast, targetExponent_eq n 0 (by omega),
    decreaseExponent, hshift, Nat.shiftLeft_eq]
  have hexp : (0 : ℤ) - ((52 - n.log2 : ℕ) : ℤ) = n.log2 - 52 := by omega
  rw [hexp, hround]

/-- The double nearest to a whole number. Its exponent is that of the leading bit of the number, up to
what is carried when the mantissa is rounded. -/
theorem ofNat_eq {n : ℕ} (hpos : 0 < n) :
    ∃ m e h, Float.ofNat n = .ofModel (.pack (.finite .positive m e h)) ∧
      2 ^ 52 ≤ m ∧ m < 2 ^ 53 ∧ n.log2 - 52 ≤ e ∧ e ≤ n.log2 - 50 := by
  by_cases hn : n < 2 ^ 53
  · obtain ⟨m, e, h, heq, hm, hm', he, he'⟩ := ofUInt64_eq hpos hn
    have hlog : n.log2 < 53 := (Nat.log2_lt (by omega)).mpr hn
    have hlogm : (m * 2 ^ 52).log2 = 104 := by rw [log2_mul_two_pow h, log2_eq hm hm']
    obtain ⟨m₂, e₂, h₂, hround, hm₂, hm₂', he₂, he₂'⟩ :=
      roundWithAccuracy_normal .positive (m * 2 ^ 52) (e + -52) (by omega) (by omega)
    refine ⟨m₂, e₂, h₂, ?_, hm₂, hm₂', by omega, by omega⟩
    rw [ofNat_of_lt hn, heq]
    change Float.ofModel (.pack (UnpackedFloat.mul Format.binary64 (Float.Model.unpack _)
      (Float.ofBits 0x3FF0000000000000).toModel.unpack)) = _
    rw [unpack_one, unpack_pack_finite .positive ⟨hm, hm', by omega, by omega⟩ h, UnpackedFloat.mul]
    exact congrArg (fun u => Float.ofModel (.pack u)) hround
  · have hlog : (n * 2 ^ 53).log2 = n.log2 + 53 := log2_mul_two_pow hpos 53
    have hlog' : 53 ≤ n.log2 := (Nat.le_log2 hpos.ne').mpr (by omega)
    obtain ⟨m, e, h, hround, hm, hm', he, he'⟩ :=
      roundWithAccuracy_normal .positive (n * 2 ^ 53) (-53) (by omega) (by omega)
    refine ⟨m, e, h, ?_, hm, hm', by omega, by omega⟩
    have hsafe : ¬ (0 : ℤ) > 2 ^ Format.binary64.exponentBits := by norm_num
    have hsafe' : ¬ (0 : ℤ) < -((2 ^ Format.binary64.exponentBits : ℤ) + n.log2) := by
      omega
    rw [ofNat_of_le (by omega)]
    unfold Float.Model.ofScientific UnpackedFloat.ofScientific
    rw [dif_neg hpos.ne', if_neg hsafe, if_neg hsafe', if_pos le_rfl, UnpackedFloat.mul]
    have hone : n <<< Format.binary64.mantissaBits * 10 ^ Int.toNat 0 = n * 2 ^ 53 := by
      simp [Nat.shiftLeft_eq, Format.mantissaBits]
    rw [hone]
    exact congrArg (fun u => Float.ofModel (.pack u)) hround

theorem ofNat_isFinite {n : ℕ} (h : n < 2 ^ 64) :
    (Float.ofNat n).isFinite = true ∧ (-Float.ofNat n).isFinite = true := by
  rcases Nat.eq_zero_or_pos n with rfl | hpos
  · exact ⟨rfl, rfl⟩
  · obtain ⟨m, e, hm0, heq, hm, hm', he, he'⟩ := ofNat_eq hpos
    have hlog : n.log2 < 64 := (Nat.log2_lt hpos.ne').mpr h
    have hn : Normal m e := ⟨hm, hm', by omega, by omega⟩
    rw [heq, neg_ofModel_pack hn]
    exact ⟨isFinite_ofModel_pack hn, isFinite_ofModel_pack hn⟩

theorem ofInt_isFinite {n : ℤ} (h : FitsInteger n) : (Float.ofInt n).isFinite = true := by
  obtain ⟨hl, hu⟩ := h
  cases n with
  | ofNat k => exact (ofNat_isFinite (by simp at hu; omega)).1
  | negSucc k => exact (ofNat_isFinite (n := k + 1) (by omega)).2

theorem le_natAbs_of_toInt? {b : Binary} (hm : 2 ^ 52 ≤ b.mantissa) (he : 0 ≤ b.exponent) {i : ℤ}
    (hi : b.toInt? = some i) : 2 ^ 52 ≤ i.natAbs := by
  have hle : 2 ^ 52 ≤ b.mantissa * Nat.pow 2 b.exponent.toNat :=
    hm.trans (Nat.le_mul_of_pos_right _ (Nat.pow_pos (by omega)))
  simp only [Binary.toInt?, if_pos he, Option.some.injEq] at hi
  rw [← hi]
  split <;> omega

/-- The double nearest to a whole number of at least 64 bits is large, unless it is infinite. -/
theorem ofNat_large {n : ℕ} (h : 2 ^ 63 ≤ n) {x : Float}
    (hx : x = Float.ofNat n ∨ x = -Float.ofNat n) (hf : x.isFinite = true) :
    2 ^ 52 ≤ (Binary.ofFloat x).mantissa ∧ 0 ≤ (Binary.ofFloat x).exponent := by
  obtain ⟨m, e, hm0, heq, hm, hm', he, he'⟩ := ofNat_eq (n := n) (by omega)
  have hlog : 63 ≤ n.log2 := (Nat.le_log2 (by omega)).mpr h
  rw [heq] at hx
  by_cases hlarge : e ≤ 971
  · have hn : Normal m e := ⟨hm, hm', by omega, hlarge⟩
    have hunpack : ∃ s, x.toModel.unpack = .finite s m e hm0 := by
      rcases hx with rfl | rfl
      · exact ⟨_, unpack_pack_finite _ hn hm0⟩
      · rw [neg_ofModel_pack hn]
        exact ⟨_, unpack_pack_finite _ hn hm0⟩
    obtain ⟨s, hs⟩ := hunpack
    obtain ⟨hbm, hbe⟩ := ofFloat_of_unpack hs
    omega
  · have hinf := unpack_pack_overflow .positive hm0 (not_le.mp hlarge)
    rcases hx with rfl | rfl
    · change (Float.Model.unpack _).isFinite = true at hf
      rw [hinf] at hf
      cases hf
    · change (Float.Model.unpack (.pack (Float.Model.unpack _).neg)).isFinite = true at hf
      rw [hinf] at hf
      cases hf

theorem ofInt_large {n : ℤ} (h : 2 ^ 63 ≤ n.natAbs) (hf : (Float.ofInt n).isFinite = true) {i : ℤ}
    (hi : (Binary.ofFloat (Float.ofInt n)).toInt? = some i) : 2 ^ 52 ≤ i.natAbs := by
  have hlarge : 2 ^ 52 ≤ (Binary.ofFloat (Float.ofInt n)).mantissa ∧
      0 ≤ (Binary.ofFloat (Float.ofInt n)).exponent := by
    cases n with
    | ofNat k => exact ofNat_large (n := k) (by simpa using h) (.inl rfl) hf
    | negSucc k => exact ofNat_large (n := k + 1) (by simpa using h) (.inr rfl) hf
  exact le_natAbs_of_toInt? hlarge.1 hlarge.2 hi

end ReceiptRules.Double

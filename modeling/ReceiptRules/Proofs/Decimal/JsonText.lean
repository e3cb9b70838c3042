import ReceiptRules.Proofs.Json5.WrittenNumber

/-!
# Doubles as JSON numbers

The text of a double is a number of JSON, with a point or an exponent, so that it is read as a double and
not as an integer. What makes this more than a matter of layout is that a decimal with the digit zero
alone has no power of ten, which would stand as a superfluous zero in front of others.
-/

namespace ReceiptRules.Decimal

open Json5

/-! ## Layouts -/

theorem whole_singleton {c : Char} (h : c.isDigit = true) : Whole [c] := by
  by_cases hc : c = '0'
  · subst hc
    exact .zero
  · exact .digits hc (by simpa using h)

theorem whole_zeros {n places : ℕ} (h : n = 0 → places = 0) :
    Whole (Nat.toDigits 10 n ++ List.replicate places '0') := by
  have hall : ∀ c ∈ Nat.toDigits 10 n ++ List.replicate places '0', c.isDigit = true := by
    intro c hc
    rcases List.mem_append.mp hc with hc | hc
    · exact isDigit_of_mem_toDigits c hc
    · rw [List.eq_of_mem_replicate hc]
      rfl
  rcases Nat.eq_zero_or_pos n with rfl | hn
  · rw [h rfl]
    exact .zero
  · obtain ⟨c, cs, hcs, hc⟩ := exists_toDigits_cons hn
    rw [hcs] at hall ⊢
    exact .digits hc hall

theorem whole_take {n k : ℕ} (hn : 0 < n) (hk : 0 < k) : Whole ((Nat.toDigits 10 n).take k) := by
  have hall : ∀ c ∈ (Nat.toDigits 10 n).take k, c.isDigit = true := fun c hc =>
    isDigit_of_mem_toDigits c (List.mem_of_mem_take hc)
  obtain ⟨c, cs, hcs, hc⟩ := exists_toDigits_cons hn
  obtain ⟨k, rfl⟩ := Nat.exists_eq_succ_of_ne_zero hk.ne'
  rw [hcs] at hall ⊢
  exact .digits hc hall

/-- Digits with the point in its place. -/
theorem magnitude_writePositional {n : ℕ} {exponent : ℤ} (h : n = 0 → exponent = 0) :
    Magnitude (Layout.writePositional true (Nat.toDigits 10 n) exponent) ∧
      '.' ∈ Layout.writePositional true (Nat.toDigits 10 n) exponent := by
  have hof : ∀ {w f : List Char}, Whole w → Fraction ('.' :: f) →
      Magnitude (w ++ '.' :: f) ∧ '.' ∈ w ++ '.' :: f := fun hw hf =>
    ⟨by simpa using Magnitude.intro hw hf .none, by simp⟩
  rw [Layout.writePositional]
  by_cases hexponent : 0 ≤ exponent
  · rw [if_pos hexponent]
    exact hof (whole_zeros fun hn => by simp [h hn]) (.some (List.cons_ne_nil _ _) (by simp))
  · have hn : 0 < n := Nat.pos_of_ne_zero fun hn => hexponent (h hn).ge
    rw [if_neg hexponent]
    simp only
    split_ifs with hplaces
    · have hdrop : (Nat.toDigits 10 n).drop ((Nat.toDigits 10 n).length - exponent.natAbs) ≠ [] := by
        rw [Ne, List.drop_eq_nil_iff]
        omega
      exact hof (whole_take hn (by omega))
        (.some hdrop fun d hd => isDigit_of_mem_toDigits d (List.mem_of_mem_drop hd))
    · refine hof .zero (.some (by simp [Nat.toDigits_ne_nil]) fun d hd => ?_)
      rcases List.mem_append.mp hd with hd | hd
      · rw [List.eq_of_mem_replicate hd]
        rfl
      · exact isDigit_of_mem_toDigits d hd

/-- Digits with a power of ten. -/
theorem magnitude_writeScientific (n : ℕ) (exponent : ℤ) :
    Magnitude (Layout.writeScientific (Nat.toDigits 10 n) exponent) ∧
      'e' ∈ Layout.writeScientific (Nat.toDigits 10 n) exponent := by
  have hx : Exponent ('e' :: (if exponent < 0 then '-' else '+') :: Nat.toDigits 10 exponent.natAbs) :=
    .some (by split_ifs <;> simp) Nat.toDigits_ne_nil isDigit_of_mem_toDigits
  have hdigits := isDigit_of_mem_toDigits (n := n)
  refine ⟨?_, by simp [Layout.writeScientific]⟩
  cases hcs : Nat.toDigits 10 n with
  | nil => exact absurd hcs Nat.toDigits_ne_nil
  | cons d ds =>
    rw [hcs, List.forall_mem_cons] at hdigits
    have hw := whole_singleton hdigits.1
    cases ds with
    | nil => exact .intro hw .none hx
    | cons e es => exact .intro hw (.some (List.cons_ne_nil _ _) hdigits.2) hx

/-- A number with a point or an exponent is read as a double. -/
theorem numeral_of_magnitude {m : List Char} (negative : Bool) (hm : Magnitude m)
    (hmark : '.' ∈ m ∨ 'e' ∈ m) :
    Numeral (if negative then '-' :: m else m) ∧
      isInteger (if negative then '-' :: m else m) = false := by
  have hnumeral : Numeral (if negative then '-' :: m else m) := by
    cases negative
    · exact .unsigned hm
    · exact .negative hm
  refine ⟨hnumeral, Bool.eq_false_iff.mpr fun hinteger => ?_⟩
  obtain ⟨hpoint, hexponent⟩ := hnumeral.isInteger_iff.mp hinteger
  cases negative <;> simp_all

theorem numeral_write {d : Decimal} (h : d.mantissa = 0 → d.exponent = 0) :
    Numeral (Layout.json.write d) ∧ isInteger (Layout.json.write d) = false := by
  rw [Layout.write]
  refine numeral_of_magnitude d.negative ?_ ?_
  all_goals split_ifs
  · exact (magnitude_writePositional h).1
  · exact (magnitude_writeScientific d.mantissa _).1
  · exact .inl (magnitude_writePositional h).2
  · exact .inr (magnitude_writeScientific d.mantissa _).2

/-! ## The shortest decimal -/

namespace RoundingInterval

variable {i : RoundingInterval}

theorem pos_of_contains {n : ℕ} (hlow : 0 < i.low) (h : i.contains n = true) : 0 < n := by
  rw [contains] at h
  split_ifs at h <;>
  · simp only [Bool.and_eq_true, decide_eq_true_eq] at h
    omega

theorem pos_of_nearest? {grid factor : ℕ} (hlow : 0 < i.low) (h : i.nearest? grid = some factor) :
    0 < factor := by
  have hpos : ∀ {n}, i.contains (n * grid) = true → 0 < n := fun hn =>
    Nat.pos_of_mul_pos_right (pos_of_contains hlow hn)
  rw [nearest?] at h
  simp only at h
  split at h
  · cases h
  · next hbelow _ =>
    obtain rfl := Option.some.inj h
    exact hpos hbelow
  · obtain rfl := Option.some.inj h
    exact Nat.succ_pos _
  · next hbelow _ =>
    obtain rfl := Option.some.inj h
    split_ifs
    · exact hpos hbelow
    · exact Nat.succ_pos _

theorem coarsest_pos (hlow : 0 < i.low) (hmiddle : 0 < i.middle) (places : ℕ) :
    0 < (i.coarsest places).1 := by
  induction places with
  | zero => exact hmiddle
  | succ places ih =>
    rw [coarsest]
    split
    · next h => exact pos_of_nearest? hlow h
    · exact ih

theorem ofBinary_pos {b : Binary} (h : b.mantissa ≠ 0) :
    0 < (ofBinary b).low ∧ 0 < (ofBinary b).middle := by
  have hpos := Nat.pos_of_ne_zero h
  have hunit : 0 < 25 * if 0 ≤ b.exponent then Nat.pow 2 b.exponent.toNat
      else Nat.pow 5 b.exponent.natAbs := by
    split_ifs
    · exact Nat.mul_pos (by omega) (Nat.pow_pos (by omega))
    · exact Nat.mul_pos (by omega) (Nat.pow_pos (by omega))
  refine ⟨Nat.mul_pos ?_ hunit, Nat.mul_pos (by omega) hunit⟩
  split_ifs <;> omega

end RoundingInterval

theorem stripZeros_pos {n : ℕ} (h : 0 < n) (exponent : ℤ) (fuel : ℕ) :
    0 < (stripZeros n exponent fuel).1 := by
  induction fuel generalizing n exponent with
  | zero => exact h
  | succ fuel ih =>
    rw [stripZeros]
    split_ifs with hdigit
    · simp only [Bool.and_eq_true, decide_eq_true_eq] at hdigit
      exact ih (by omega) _
    · exact h

/-- Zero has no power of ten. -/
theorem ofFloat_exponent_of_mantissa_eq_zero {x : Float} (h : (ofFloat x).mantissa = 0) :
    (ofFloat x).exponent = 0 := by
  rw [ofFloat] at h ⊢
  simp only at h ⊢
  split_ifs at h ⊢ with hzero
  · rfl
  · obtain ⟨hlow, hmiddle⟩ := RoundingInterval.ofBinary_pos hzero
    have hpos := stripZeros_pos (RoundingInterval.coarsest_pos hlow hmiddle
      (digitCount (RoundingInterval.ofBinary (Binary.ofFloat x)).middle))
    exact absurd h (hpos _ _).ne'

/-- The text of a double is a number of JSON that counts as no integer. -/
theorem numeral_jsonText (x : Float) :
    Numeral (jsonText x).toList ∧ isInteger (jsonText x).toList = false := by
  rw [jsonText, String.toList_ofList]
  exact numeral_write ofFloat_exponent_of_mantissa_eq_zero

end ReceiptRules.Decimal

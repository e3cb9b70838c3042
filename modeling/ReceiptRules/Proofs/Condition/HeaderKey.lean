import Mathlib.Data.List.TakeWhile
import Mathlib.Tactic.Common
import ReceiptRules.Condition.HeaderPattern
import ReceiptRules.Proofs.Regex.EscapedText

/-!
# Keys of header conditions

A key is a regular expression exactly if it can be written as a slash, a pattern, a slash and flags, where
the pattern is not empty and the flags hold no slash; pattern and flags are then determined, because the
last slash of the key is the one between them. Any other key but the empty one is a phrase: it is found in
a line if a run of characters is the same up to case, whatever characters it is made of
(`ofKey_forms`). Both kinds are refused if their expressions take too much memory.
-/

namespace ReceiptRules.HeaderPattern

/-- Whether a key is a regular expression, with its pattern and its flags. -/
structure IsRegex (key pattern flags : List Char) : Prop where
  eq_append : key = '/' :: pattern ++ '/' :: flags
  pattern_ne_nil : pattern ≠ []
  slash_notMem : '/' ∉ flags

variable {key : String} {cs p f : List Char}

/-! ## The last slash -/

theorem takeWhile_append_slash (h : '/' ∉ f) :
    (f ++ '/' :: p).takeWhile (· != '/') = f ∧ (f ++ '/' :: p).dropWhile (· != '/') = '/' :: p := by
  induction f with
  | nil => simp
  | cons c f ih =>
    rw [List.mem_cons, not_or] at h
    have hc : (c != '/') = true := bne_iff_ne.mpr (Ne.symm h.1)
    simp [hc, ih h.2]

theorem splitRegex?_eq_some_iff : splitRegex? cs = some (p, f) ↔ IsRegex cs p f := by
  constructor
  · intro h
    unfold splitRegex? at h
    split at h
    · next rest =>
      split at h
      · next slash c before hdrop =>
        cases h
        have hslash : slash = '/' := by
          have hhead := List.head?_dropWhile_not (· != '/') rest.reverse
          rw [hdrop] at hhead
          simpa using hhead
        have hrest := calc
          rest = (rest.reverse.takeWhile (· != '/') ++ rest.reverse.dropWhile (· != '/')).reverse := by
            rw [List.takeWhile_append_dropWhile, List.reverse_reverse]
          _ = (c :: before).reverse ++ '/' :: (rest.reverse.takeWhile (· != '/')).reverse := by
            rw [hdrop, hslash]
            simp
        refine ⟨congrArg ('/' :: ·) hrest, by simp, fun hmem => ?_⟩
        simpa using List.mem_takeWhile_imp (List.mem_reverse.mp hmem)
      · cases h
    · cases h
  · intro h
    obtain ⟨rfl, hp, hf⟩ := h
    have hf' : '/' ∉ f.reverse := by simpa using hf
    obtain ⟨htake, hdrop⟩ := takeWhile_append_slash (p := p.reverse) hf'
    have hreverse : (p ++ '/' :: f).reverse = f.reverse ++ '/' :: p.reverse := by simp
    simp only [splitRegex?, List.cons_append, hreverse, htake, hdrop, List.reverse_reverse]
    cases hcases : p.reverse with
    | nil => exact absurd (List.reverse_eq_nil_iff.mp hcases) hp
    | cons c before => simp [← hcases]

theorem splitRegex?_eq_none_iff : splitRegex? cs = none ↔ ∀ p f, ¬ IsRegex cs p f := by
  simp only [← splitRegex?_eq_some_iff, Option.eq_none_iff_forall_ne_some, Prod.forall]

/-- Pattern and flags are determined by the key. -/
theorem IsRegex.unique {p' f' : List Char} (h : IsRegex cs p f) (h' : IsRegex cs p' f') :
    p = p' ∧ f = f' := by
  rw [← splitRegex?_eq_some_iff] at h h'
  simpa using h.symm.trans h'

/-! ## What keys are compiled to -/

theorem ofKey_eq_ok_iff {pattern : HeaderPattern} :
    ofKey key = .ok pattern ↔ pattern.source = key := by
  constructor
  · intro h
    unfold ofKey at h
    split at h <;> cases h
    rfl
  · rintro rfl
    exact ofKey_source pattern

theorem exists_ofKey_of_compile {r : Regex} (h : compile key = .ok r) :
    ∃ pattern, ofKey key = .ok pattern ∧ pattern.regex = r :=
  ⟨⟨key, r, h⟩, ofKey_source ⟨key, r, h⟩, rfl⟩

theorem ofKey_of_compile_eq_error {e : PatternError} (h : compile key = .error e) :
    ofKey key = .error e := by
  unfold ofKey
  split
  · next r hr => rw [hr] at h; cases h
  · next e' he => rw [he] at h; cases h; rfl

theorem IsRegex.ne_empty (h : IsRegex key.toList p f) : key ≠ "" := by
  rintro rfl
  cases h.eq_append

theorem compile_of_isRegex (h : IsRegex key.toList p f) :
    compile key =
      match Regex.ofText? (f.contains 'i') p with
      | some r => bounded (.tooLarge (String.ofList p)) r
      | none => .error (.malformed (String.ofList p)) := by
  have hempty := String.isEmpty_eq_false_iff.mpr h.ne_empty
  have hsplit := splitRegex?_eq_some_iff.mpr h
  cases hr : Regex.ofText? (f.contains 'i') p with
  | none => simp only [compile, hempty, hsplit, hr, Bool.false_eq_true, if_false]
  | some r => simp only [compile, hempty, hsplit, hr, Bool.false_eq_true, if_false]

/-- A key that is no regular expression is a phrase. -/
theorem compile_of_forall_not_isRegex (hne : key ≠ "") (h : ∀ p f, ¬ IsRegex key.toList p f) :
    compile key = bounded .phraseTooLarge (.phrase key.toList) := by
  have hempty := String.isEmpty_eq_false_iff.mpr hne
  have hsplit := splitRegex?_eq_none_iff.mpr h
  simp only [compile, hempty, hsplit, Bool.false_eq_true, if_false]

theorem bounded_eq_ok_iff {e : PatternError} {r r' : Regex} :
    bounded e r = .ok r' ↔ r.size ≤ Regex.sizeLimit ∧ r = r' := by
  unfold bounded
  split
  · next h => simp [h]
  · next h => simp [h]

theorem bounded_eq_error {e : PatternError} {r : Regex} (h : Regex.sizeLimit < r.size) :
    bounded e r = .error e := if_neg (Nat.not_le.mpr h)

/-- A phrase is a header pattern unless it takes too much memory. -/
theorem ofKey_phrase (hne : key ≠ "") (h : ∀ p f, ¬ IsRegex key.toList p f) :
    (Regex.sizeLimit < (Regex.phrase key.toList).size → ofKey key = .error .phraseTooLarge) ∧
      ((Regex.phrase key.toList).size ≤ Regex.sizeLimit → ∃ pattern, ofKey key = .ok pattern) := by
  have hcompile := compile_of_forall_not_isRegex hne h
  constructor
  · intro hsize
    exact ofKey_of_compile_eq_error (hcompile.trans (bounded_eq_error hsize))
  · intro hsize
    have hphrase := hcompile.trans (bounded_eq_ok_iff.mpr ⟨hsize, rfl⟩)
    obtain ⟨pattern, hkey, -⟩ := exists_ofKey_of_compile hphrase
    exact ⟨pattern, hkey⟩

theorem exists_ofKey_iff (hne : key ≠ "") (h : ∀ p f, ¬ IsRegex key.toList p f) :
    (∃ pattern, ofKey key = .ok pattern) ↔ (Regex.phrase key.toList).size ≤ Regex.sizeLimit := by
  obtain ⟨hlarge, hsmall⟩ := ofKey_phrase hne h
  constructor
  · rintro ⟨pattern, hkey⟩
    by_contra hsize
    rw [hlarge (Nat.lt_of_not_le hsize)] at hkey
    cases hkey
  · exact hsmall

/-! ## Which lines are found -/

/-- The characters of a phrase have sets up to case. -/
theorem isRow_of_forall_not_isRegex {pattern : HeaderPattern}
    (h : ∀ p f, ¬ IsRegex pattern.source.toList p f) (hne : pattern.source ≠ "") :
    pattern.regex.IsRow (pattern.source.toList.map .caseless) := by
  have hcompiled := (compile_of_forall_not_isRegex hne h).symm.trans pattern.compiled
  obtain ⟨-, hregex⟩ := bounded_eq_ok_iff.mp hcompiled
  rw [← hregex]
  exact Regex.isRow_phrase _

/-- The three forms of keys. The empty key is refused. A regular expression is compiled with regard to
case or without, and a text in it, with its marks escaped, is found exactly or up to case. A phrase is
compiled if it keeps to the size limit, to an expression that matches as the escaped phrase would, and found
up to case. -/
theorem ofKey_forms (key : String) :
    (∀ p f p' f', IsRegex key.toList p f → IsRegex key.toList p' f' → p = p' ∧ f = f') ∧
    ofKey "" = .error .emptyKey ∧
    (∀ p f, IsRegex key.toList p f →
      (Regex.ofText? (f.contains 'i') p = none → ofKey key = .error (.malformed (String.ofList p))) ∧
      ∀ r, Regex.ofText? (f.contains 'i') p = some r → r.size ≤ Regex.sizeLimit →
        ∃ pattern, ofKey key = .ok pattern ∧ pattern.regex = r ∧
          ∀ text, p = Regex.escape text → ∀ line, pattern.isMatch line = true ↔
            ∃ found, found <:+: line.toList ∧
              if 'i' ∈ f then Text.EqualUpToCase found text else found = text) ∧
    (key ≠ "" → (∀ p f, ¬ IsRegex key.toList p f) →
      (Regex.sizeLimit < (Regex.phrase key.toList).size → ofKey key = .error .phraseTooLarge) ∧
      ((Regex.phrase key.toList).size ≤ Regex.sizeLimit →
        ∃ pattern, ofKey key = .ok pattern ∧
          (∃ r, Regex.ofText? true (Regex.escape key.toList) = some r ∧
            ∀ c, pattern.regex.ends c = r.ends c) ∧
          ∀ line, pattern.isMatch line = true ↔
            ∃ found, found <:+: line.toList ∧ Text.EqualUpToCase found key.toList)) := by
  refine ⟨fun p f p' f' h h' => h.unique h', ofKey_of_compile_eq_error rfl, ?regex, ?phrase⟩
  case regex =>
    intro p f h
    have hcompile := compile_of_isRegex h
    refine ⟨fun hnone => ?_, fun r hr hsize => ?_⟩
    · rw [hnone] at hcompile
      exact ofKey_of_compile_eq_error hcompile
    · simp only [hr] at hcompile
      obtain ⟨pattern, hkey, rfl⟩ :=
        exists_ofKey_of_compile (hcompile.trans (bounded_eq_ok_iff.mpr ⟨hsize, rfl⟩))
      refine ⟨pattern, hkey, rfl, fun text htext line => ?_⟩
      subst htext
      obtain ⟨r, hr', hrow⟩ := Regex.ofText?_escape (f.contains 'i') text
      obtain rfl : pattern.regex = r := Option.some.inj (hr.symm.trans hr')
      have htext : text ≠ [] := by
        rintro rfl
        exact h.pattern_ne_nil rfl
      rw [isMatch, hrow.isMatch_iff_infix (by simpa using htext)]
      simp only [Regex.fits_literalSet, List.contains_iff_mem]
  case phrase =>
    intro hne h
    obtain ⟨hlarge, hsmall⟩ := ofKey_phrase hne h
    refine ⟨hlarge, fun hsize => ?_⟩
    obtain ⟨pattern, hkey⟩ := hsmall hsize
    obtain rfl := ofKey_eq_ok_iff.mp hkey
    have hrow := isRow_of_forall_not_isRegex h hne
    have htext : pattern.source.toList ≠ [] := by simpa using hne
    refine ⟨pattern, hkey, ?_, fun line => ?_⟩
    · obtain ⟨r, hr, hrow'⟩ := Regex.ofText?_escape true pattern.source.toList
      exact ⟨r, hr, fun c => (hrow c).trans (hrow' c).symm⟩
    · rw [isMatch, hrow.isMatch_iff_infix (by simpa using htext)]
      simp only [Regex.fits_caseless]

/-- With a point between the slashes, and with nothing between them. -/
theorem ofKey_forms_slashes :
    IsRegex "/\\./i".toList ['\\', '.'] ['i'] ∧ (∀ p f, ¬ IsRegex "//".toList p f) ∧
      (∃ pattern, ofKey "/\\./i" = .ok pattern ∧ pattern.isMatch "St. 5" = true) ∧
      ∃ pattern, ofKey "//" = .ok pattern ∧ pattern.isMatch "http://" = true := by
  have hregex : IsRegex "/\\./i".toList ['\\', '.'] ['i'] := ⟨rfl, by decide, by decide⟩
  have hphrase : ∀ p f, ¬ IsRegex "//".toList p f := splitRegex?_eq_none_iff.mp rfl
  refine ⟨hregex, hphrase, ?_, ?_⟩
  · obtain ⟨-, hread⟩ := (ofKey_forms "/\\./i").2.2.1 _ _ hregex
    obtain ⟨pattern, hkey, -, hfound⟩ := hread (.set (.caseless '.')) rfl (by decide)
    refine ⟨pattern, hkey, (hfound ['.'] rfl "St. 5").mpr ⟨['.'], ?_, rfl⟩⟩
    exact ⟨['S', 't'], [' ', '5'], rfl⟩
  · obtain ⟨-, hread⟩ := (ofKey_forms "//").2.2.2 (by decide) hphrase
    obtain ⟨pattern, hkey, -, hfound⟩ := hread (by decide)
    refine ⟨pattern, hkey, (hfound "http://").mpr ⟨['/', '/'], ?_, rfl⟩⟩
    exact ⟨['h', 't', 't', 'p', ':'], [], rfl⟩

end ReceiptRules.HeaderPattern

import ReceiptRules.Proofs.Condition.Grammar
import ReceiptRules.Proofs.Condition.HeaderKey
import ReceiptRules.Proofs.Regex.Places
import ReceiptRules.Proofs.Text.Trimming
import ReceiptRules.Condition.Evaluation

/-!
# Values of header lines

A value is what is left of a line after a match of the key, without separators in front and without blanks
at the end. For any key, a line has values exactly if the key is found in it, and each is a part of the
line (`valuesAfter_laws`). For a phrase the values are the texts that follow its occurrences in the line,
counted from left to right (`mem_valuesAfter_iff`).
-/

namespace ReceiptRules

namespace HeaderPattern

/-- Whether a text can be a value: it does not start with a colon, an equals sign or a blank, and does not
end in a blank. -/
def IsValue (text : List Char) : Prop :=
  (∀ c ∈ text.head?, c ≠ ':' ∧ c ≠ '=' ∧ Text.isBlank c = false) ∧
    ∀ c ∈ text.getLast?, Text.isBlank c = false

/-- Whether a line is a key at a position, up to case, with a text after it, where only colons, equals signs
and blanks are between them, and only blanks are at the end of the line. -/
def Carries (key text line : List Char) (i : ℕ) : Prop :=
  ∃ before found separators blanks,
    line = before ++ found ++ separators ++ text ++ blanks ∧ before.length = i ∧
      Text.EqualUpToCase found key ∧ (∀ c ∈ separators, c = ':' ∨ c = '=' ∨ Text.isBlank c = true) ∧
      ∀ c ∈ blanks, Text.isBlank c = true

variable {pattern : HeaderPattern} {rest : List Char} {line value : String} {i : ℕ}

/-! ## Values at the start of a text -/

theorem isSeparator_iff {c : Char} :
    isSeparator c = true ↔ c = ':' ∨ c = '=' ∨ Text.isBlank c = true := by
  simp [isSeparator, or_assoc]

theorem isSeparator_eq_false_iff {c : Char} :
    isSeparator c = false ↔ c ≠ ':' ∧ c ≠ '=' ∧ Text.isBlank c = false := by
  simp [isSeparator, and_assoc]

theorem isValue_valueOf (rest : List Char) : IsValue (valueOf rest).toList := by
  rw [valueOf, String.toList_ofList]
  refine ⟨fun c hc => ?_, fun c hc => Text.getLast?_trimEnd hc⟩
  obtain ⟨trimmed, htrimmed, -⟩ :=
    Text.exists_eq_trimEnd_append Text.isBlank (Text.trimStart isSeparator rest)
  have hhead : (Text.trimStart isSeparator rest).head? = some c := by
    rw [htrimmed, List.head?_append_of_ne_nil, hc]
    intro hnil
    simp [hnil] at hc
  exact isSeparator_eq_false_iff.mp (Text.head?_trimStart hhead)

theorem exists_eq_append_valueOf (rest : List Char) :
    ∃ separators blanks, rest = separators ++ (valueOf rest).toList ++ blanks ∧
      (∀ c ∈ separators, isSeparator c = true) ∧ ∀ c ∈ blanks, Text.isBlank c = true := by
  obtain ⟨separators, hrest, hseparators⟩ := Text.exists_eq_append_trimStart isSeparator rest
  obtain ⟨blanks, htext, hblanks⟩ :=
    Text.exists_eq_trimEnd_append Text.isBlank (Text.trimStart isSeparator rest)
  refine ⟨separators, blanks, ?_, hseparators, hblanks⟩
  rw [valueOf, String.toList_ofList, List.append_assoc, ← htext]
  exact hrest

/-- The value is the only text that can be one and that fills the rest up to separators and blanks. -/
theorem valueOf_eq_iff :
    valueOf rest = value ↔
      IsValue value.toList ∧ ∃ separators blanks, rest = separators ++ value.toList ++ blanks ∧
        (∀ c ∈ separators, isSeparator c = true) ∧ ∀ c ∈ blanks, Text.isBlank c = true := by
  constructor
  · rintro rfl
    exact ⟨isValue_valueOf rest, exists_eq_append_valueOf rest⟩
  · rintro ⟨⟨hhead, hlast⟩, separators, blanks, rfl, hseparators, hblanks⟩
    have htrimmed : Text.trimEnd Text.isBlank
        (Text.trimStart isSeparator (separators ++ value.toList ++ blanks)) = value.toList := by
      cases hvalue : value.toList with
      | nil =>
        -- An empty value leaves nothing but separators.
        have hall : ∀ c ∈ separators ++ blanks, isSeparator c = true := by
          intro c hc
          rcases List.mem_append.mp hc with hc | hc
          · exact hseparators c hc
          · exact isSeparator_iff.mpr (.inr (.inr (hblanks c hc)))
        have hnil : Text.trimStart isSeparator (separators ++ blanks ++ []) = [] :=
          Text.trimStart_append hall (by simp)
        rw [List.append_nil] at hnil ⊢
        rw [hnil, Text.trimEnd_nil]
      | cons c cs =>
        rw [hvalue] at hhead hlast
        rw [List.append_assoc, Text.trimStart_append hseparators, Text.trimEnd_append hblanks hlast]
        intro d hd
        exact isSeparator_eq_false_iff.mpr (hhead d (by simpa using hd))
    rw [valueOf, htrimmed, String.ofList_toList]

/-! ## Values of lines -/

theorem infix_of_mem_valuesAfter (h : value ∈ pattern.valuesAfter line) :
    value.toList <:+: line.toList := by
  obtain ⟨e, he, rfl⟩ := List.mem_map.mp h
  obtain ⟨separators, blanks, hrest, -⟩ := exists_eq_append_valueOf e.rest
  have hpart : (valueOf e.rest).toList <:+: e.rest := ⟨separators, blanks, hrest.symm⟩
  exact hpart.trans (Regex.suffix_of_mem_matchEnds he).isInfix

theorem isValue_of_mem_valuesAfter (h : value ∈ pattern.valuesAfter line) : IsValue value.toList := by
  obtain ⟨e, -, rfl⟩ := List.mem_map.mp h
  exact isValue_valueOf e.rest

theorem valuesAfter_ne_nil_iff :
    pattern.valuesAfter line ≠ [] ↔ pattern.isMatch line = true := by
  rw [valuesAfter, Ne, List.map_eq_nil_iff, Regex.matchEnds_eq_nil_iff, Bool.not_eq_false, isMatch]

/-- What is true of the values of a line: there are any exactly if the key is found, and each is a part of
the line that can be a value. So a line with a value has the key, and a text that cannot be a value is the
value of no line. -/
theorem valuesAfter_laws (pattern : HeaderPattern) :
    (∀ line, pattern.valuesAfter line ≠ [] ↔ pattern.isMatch line = true) ∧
    (∀ line, ∀ value ∈ pattern.valuesAfter line,
      value.toList <:+: line.toList ∧ IsValue value.toList) ∧
    ∀ (r : Receipt) (value : String),
      ((Condition.leaf (.header pattern (.value value))).holds r = true →
        (Condition.leaf (.header pattern (.present true))).holds r = true ∧
          (Condition.leaf (.header pattern (.present false))).holds r = false) ∧
      (¬ IsValue value.toList →
        (Condition.leaf (.header pattern (.value value))).holds r = false) := by
  refine ⟨fun line => valuesAfter_ne_nil_iff, fun line value h =>
    ⟨infix_of_mem_valuesAfter h, isValue_of_mem_valuesAfter h⟩, fun r value => ⟨fun h => ?_, fun h => ?_⟩⟩
  · simp only [Condition.holds_leaf, Leaf.holds, List.any_eq_true, List.contains_iff_mem] at h
    obtain ⟨line, hline, hvalue⟩ := h
    have hfound : r.header.any pattern.isMatch = true :=
      List.any_eq_true.mpr ⟨line, hline, valuesAfter_ne_nil_iff.mp (List.ne_nil_of_mem hvalue)⟩
    simp only [Condition.holds_leaf, Leaf.holds, hfound]
    exact ⟨rfl, rfl⟩
  · rw [Condition.holds_leaf, Leaf.holds, List.any_eq_false]
    intro line _ hvalue
    exact h (isValue_of_mem_valuesAfter (List.contains_iff_mem.mp hvalue))

/-- A key that is found everywhere, and a text that starts with a blank. -/
theorem valuesAfter_laws_emptyMatch :
    (Condition.leaf (.header ⟨"/x*/", _, rfl⟩ (.value "12"))).holds { header := [" 12 "] } = true ∧
      (Condition.leaf (.header ⟨"/x*/", _, rfl⟩ (.present true))).holds { header := [" 12 "] } = true ∧
      ¬ IsValue " 12".toList ∧
      (Condition.leaf (.header ⟨"/x*/", _, rfl⟩ (.value " 12"))).holds { header := [" 12 "] } = false := by
  obtain ⟨-, -, hleaves⟩ := valuesAfter_laws ⟨"/x*/", _, rfl⟩
  have hheld : (Condition.leaf (.header ⟨"/x*/", _, rfl⟩ (.value "12"))).holds
      { header := [" 12 "] } = true := by decide +kernel
  have hblank : ¬ IsValue " 12".toList := fun h => absurd (h.1 ' ' rfl).2.2 (by decide)
  exact ⟨hheld, ((hleaves _ _).1 hheld).1, hblank, (hleaves _ _).2 hblank⟩

/-! ## Values after a phrase -/

theorem carries_iff {key text line : List Char} (hkey : key ≠ []) :
    Carries key text line i ↔
      Text.OccursAt key line i ∧ ∃ separators blanks,
        line.drop (i + key.length) = separators ++ text ++ blanks ∧
          (∀ c ∈ separators, isSeparator c = true) ∧ ∀ c ∈ blanks, Text.isBlank c = true := by
  simp only [isSeparator_iff, Text.occursAt_iff_exists hkey]
  constructor
  · rintro ⟨before, found, separators, blanks, rfl, rfl, hfound, hseparators, hblanks⟩
    refine ⟨⟨before, found, separators ++ text ++ blanks, by simp, rfl, hfound⟩,
      separators, blanks, ?_, hseparators, hblanks⟩
    have hline : before ++ found ++ separators ++ text ++ blanks =
        (before ++ found) ++ (separators ++ text ++ blanks) := by simp
    rw [hline, ← hfound.length_eq, ← List.length_append, List.drop_left]
  · rintro ⟨⟨before, found, after, rfl, rfl, hfound⟩, separators, blanks, hrest, hseparators, hblanks⟩
    refine ⟨before, found, separators, blanks, ?_, rfl, hfound, hseparators, hblanks⟩
    rw [← hfound.length_eq, ← List.length_append, List.drop_left] at hrest
    simp [hrest]

/-- The values of a phrase in a line: what follows its occurrences, counted from left to right. -/
theorem mem_valuesAfter_iff (h : ∀ p f, ¬ IsRegex pattern.source.toList p f)
    (hne : pattern.source ≠ "") :
    value ∈ pattern.valuesAfter line ↔
      IsValue value.toList ∧ ∃ i, Carries pattern.source.toList value.toList line.toList i ∧
        Text.Counted (Text.OccursAt pattern.source.toList line.toList) pattern.source.toList.length i := by
  have hkey : pattern.source.toList ≠ [] := by simpa using hne
  have hrow := isRow_of_forall_not_isRegex h hne
  have hends : ∀ rest, (∃ e ∈ pattern.regex.matchEnds line.toList, e.rest = rest) ↔ _ := fun rest =>
    hrow.exists_mem_matchEnds_iff (by simpa using hkey)
  rw [Regex.rowAt_caseless, List.length_map] at hends
  have hvalues : value ∈ pattern.valuesAfter line ↔
      ∃ rest, (∃ e ∈ pattern.regex.matchEnds line.toList, e.rest = rest) ∧ valueOf rest = value := by
    rw [valuesAfter, List.mem_map]
    exact ⟨fun ⟨e, he, hvalue⟩ => ⟨e.rest, ⟨e, he, rfl⟩, hvalue⟩,
      fun ⟨_, ⟨e, he, hrest⟩, hvalue⟩ => ⟨e, he, hrest ▸ hvalue⟩⟩
  simp only [hvalues, hends, valueOf_eq_iff, carries_iff hkey]
  constructor
  · rintro ⟨rest, ⟨j, hcounted, rfl⟩, hvalue, hparts⟩
    exact ⟨hvalue, j, ⟨hcounted.isOccurrence, hparts⟩, hcounted⟩
  · rintro ⟨hvalue, j, ⟨-, hparts⟩, hcounted⟩
    exact ⟨_, ⟨j, hcounted, rfl⟩, hvalue, hparts⟩

end HeaderPattern

namespace Condition

open HeaderPattern (IsRegex IsValue Carries)

variable {key : String}

theorem ofSpec_header_value_eq_ok_iff {value : String} {c : Condition} :
    ofSpec (.object [("header", .array [.string key, .string value])]) = .ok c ↔
      ∃ pattern, HeaderPattern.ofKey key = .ok pattern ∧ .leaf (.header pattern (.value value)) = c := by
  rw [ofSpec_eq_ok_iff]
  constructor
  · intro h
    obtain ⟨l, hargument, rfl⟩ := (denotes_object_iff (k := .leaf .header)).mp h
    cases hargument with
    | value accepted => exact ⟨_, accepted, rfl⟩
  · rintro ⟨pattern, accepted, rfl⟩
    exact .leaf (.value accepted)

end Condition

end ReceiptRules

import Mathlib.Tactic.Common
import ReceiptRules.Proofs.Except
import ReceiptRules.RuleFile.Verification

/-!
# What is complained about

The complaints about a file, part by part: each rule is looked at on its own, except that its name is
compared with those before it. `Strict` holds of a kind of complaints that has, of all there can be, none
but complaints about names that are there and about categories; `forall_complaints_iff` says when all
complaints about a file are of such a kind.
-/

namespace ReceiptRules.RuleFile

/-- The complaints about one rule, given the names of the rules before it. -/
def complaintsOf (index : ℕ) (before : List String) (rule : Json) : List Complaint :=
  nameComplaint index before rule ++ conditionComplaint index rule ++ categoryComplaint index rule

/-- The names of the rules before one, with the last in front. -/
def namesBefore (rules : List Json) (index : ℕ) : List String :=
  ((rules.take index).filterMap nameOf?).reverse

theorem namesBefore_cons (rule : Json) (rules : List Json) (i : ℕ) :
    namesBefore (rule :: rules) (i + 1) = namesBefore rules i ++ (nameOf? rule).toList := by
  cases h : nameOf? rule <;> simp [namesBefore, h]

/-- The complaints about rules are those about each of them. -/
theorem mem_ruleComplaints_iff {index : ℕ} {before : List String} {rules : List Json} {c : Complaint} :
    c ∈ ruleComplaints index before rules ↔
      ∃ i rule, rules[i]? = some rule ∧
        c ∈ complaintsOf (index + i) (namesBefore rules i ++ before) rule := by
  induction rules generalizing index before with
  | nil => simp [ruleComplaints]
  | cons rule rules ih =>
    have hstep : ∀ i, index + 1 + i = index + (i + 1) := by
      intro i
      omega
    rw [ruleComplaints, List.mem_append, ih]
    simp only [hstep, ← List.append_assoc, ← namesBefore_cons]
    constructor
    · rintro (h | ⟨i, r, hr, h⟩)
      · exact ⟨0, rule, rfl, h⟩
      · exact ⟨i + 1, r, hr, h⟩
    · intro h
      rcases h with ⟨_ | i, r, hr, h⟩
      · cases hr
        exact .inl h
      · exact .inr ⟨i, r, hr, h⟩

/-- A kind of complaints without those about things that are missing or cannot be read, categories
apart. -/
structure Strict (P : Complaint → Prop) : Prop where
  rulesNotList : ¬ P .rulesNotList
  missingName (i : ℕ) : ¬ P (.missingName i)
  badCondition (i : ℕ) (e : SpecError) : ¬ P (.badCondition i e)
  missingCondition (i : ℕ) : ¬ P (.missingCondition i)
  badSettings (e : ReadError) : ¬ P (.badSettings e)

variable {P : Complaint → Prop} {file rule : Json} {i : ℕ}

theorem forall_listComplaint_iff (hP : Strict P) :
    (∀ c ∈ listComplaint file, P c) ↔ ∀ w, file.get? "rules" = some w → ∃ rules, w = .array rules := by
  cases h : file.get? "rules" with
  | none => simp [listComplaint, h]
  | some w => cases w <;> simp [listComplaint, h, hP.rulesNotList]

theorem exists_name_of_forall (hP : Strict P) {before : List String}
    (h : ∀ c ∈ nameComplaint i before rule, P c) : ∃ s, nameOf? rule = some s := by
  cases hname : nameOf? rule with
  | none =>
    refine absurd (h (.missingName i) ?_) (hP.missingName i)
    simp [nameComplaint, hname]
  | some s => exact ⟨s, rfl⟩

theorem forall_conditionComplaint_iff (hP : Strict P) :
    (∀ c ∈ conditionComplaint i rule, P c) ↔
      ∃ spec, rule.get? "when" = some spec ∧ ∃ c, Condition.ofSpec spec = .ok c := by
  cases h : rule.get? "when" with
  | none => simp [conditionComplaint, h, hP.missingCondition i]
  | some spec =>
    cases hspec : Condition.ofSpec spec with
    | ok c => simp [conditionComplaint, h, hspec]
    | error e => simp [conditionComplaint, h, hspec, hP.badCondition i e]

theorem forall_categoryComplaint_iff :
    (∀ c ∈ categoryComplaint i rule, P c) ↔
      ∀ w, rule.get? "category" = some w → (∃ s, w = .string s) ∨ P (.badCategory i) := by
  cases h : rule.get? "category" with
  | none => simp [categoryComplaint, h]
  | some w => cases w <;> simp [categoryComplaint, h]

theorem forall_settingsComplaint_iff (hP : Strict P) :
    (∀ c ∈ settingsComplaint file, P c) ↔
      ∀ w, file.get? "settings" = some w → ∃ b, RuleSet.readSettings w = .ok b := by
  cases h : file.get? "settings" with
  | none => simp [settingsComplaint, h]
  | some w =>
    cases hw : RuleSet.readSettings w with
    | ok b => simp [settingsComplaint, h, hw]
    | error e => simp [settingsComplaint, h, hw, hP.badSettings e]

/-- The complaints about a file are those about its list of rules, about each rule and about the
settings. -/
theorem forall_complaints_iff :
    (∀ c ∈ complaints file, P c) ↔
      (∀ c ∈ listComplaint file, P c) ∧
        (∀ i rule, (rulesOf file)[i]? = some rule →
          (∀ c ∈ nameComplaint i (namesBefore (rulesOf file) i) rule, P c) ∧
            (∀ c ∈ conditionComplaint i rule, P c) ∧ ∀ c ∈ categoryComplaint i rule, P c) ∧
        ∀ c ∈ settingsComplaint file, P c := by
  have hrules : (∀ c ∈ ruleComplaints 0 [] (rulesOf file), P c) ↔
      ∀ i rule, (rulesOf file)[i]? = some rule →
        ∀ c ∈ complaintsOf i (namesBefore (rulesOf file) i) rule, P c := by
    simp only [mem_ruleComplaints_iff, Nat.zero_add, List.append_nil]
    constructor
    · exact fun h i rule hrule c hc => h c ⟨i, rule, hrule, hc⟩
    · rintro h c ⟨i, rule, hrule, hc⟩
      exact h i rule hrule c hc
  simp only [complaints, List.forall_mem_append, hrules, complaintsOf, and_assoc]

end ReceiptRules.RuleFile

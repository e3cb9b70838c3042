import ReceiptRules.Proofs.RuleFile.Agreement
import ReceiptRules.Proofs.RuleFile.SaveAndLoad

/-!
# Verifying saved rule files

The text of a rule set can be verified, and nothing in it is complained about but names (`verify_text`). The
example rules are what is read from the specs they are written down with (`readExamples_eq`); a new rule
file is loaded as these rules (`load_examples`) and has no faults (`verifyAt_examples`).
-/

namespace ReceiptRules

open Json5
open Json (Plain)

variable {rule : Rule} {s : RuleSet}

/-! ## The value of the text -/

/-- The value of a rule, with its keys in their order. -/
def Rule.value (rule : Rule) : Json :=
  .ofEntries ([("name", .string rule.name), ("when", rule.condition.toSpec)] ++
    optionalEntry "category" .string rule.category)

/-- The value of a rule set. -/
def RuleSet.value (s : RuleSet) : Json :=
  .object [("rules", .array (s.rules.map Rule.value)),
    ("settings", .object [("firstMatch", .bool s.firstMatch)])]

theorem Rule.Readable.toJson_tree (h : rule.Readable) : rule.toJson.tree.toJson = .ok rule.value := by
  have hcondition := Condition.toJson_tree_toSpec h.wellFormed h.thresholds
  obtain ⟨name, condition, category⟩ := rule
  cases category <;>
    simp [toJson, value, Json.tree, Json.entryTrees, Node.toJson, Node.entriesToJson, optionalEntry,
      hcondition, Except.map, bind, Except.bind, pure, Except.pure]

theorem Rule.itemsToJson_itemTrees {rules : List Rule} (h : ∀ rule ∈ rules, rule.Readable) :
    Node.itemsToJson (Json.itemTrees (rules.map toJson)) = .ok (rules.map value) := by
  induction rules with
  | nil => rfl
  | cons rule rules ih =>
    rw [List.forall_mem_cons] at h
    rw [List.map_cons, Json.itemTrees, Node.itemsToJson, h.1.toJson_tree, ih h.2]
    rfl

theorem RuleSet.toJson_tree (h : ∀ rule ∈ s.rules, rule.Readable) :
    s.toJson.tree.toJson = .ok s.value := by
  have hrules : (Json.array (s.rules.map Rule.toJson)).tree.toJson =
      .ok (.array (s.rules.map Rule.value)) := by
    rw [Json.tree, Node.toJson, Rule.itemsToJson_itemTrees h]
    rfl
  have hsettings : (Json.object [("firstMatch", .bool s.firstMatch)]).tree.toJson =
      .ok (.object [("firstMatch", .bool s.firstMatch)]) := by
    simp [Json.tree, Json.entryTrees, Node.toJson, Node.entriesToJson, Except.map, bind, Except.bind,
      pure, Except.pure, Json.ofEntries, Json.insertEntry]
  rw [toJson, Json.tree, Node.toJson]
  simp only [Json.entryTrees, Node.entriesToJson, Json.decodeString_components, hrules, hsettings]
  rfl

namespace RuleFile

theorem valueOfText_text (h : ∀ rule ∈ s.rules, rule.Readable) (htexts : ∀ t ∈ s.texts, Plain t) :
    valueOfText (text s) = .ok s.value := by
  have htree := Json.ofText?_write s.toJson (some 0)
  rw [if_pos (s.plain_toJson_iff.mpr htexts)] at htree
  rw [valueOfText, text, Json.pretty, htree]
  exact RuleSet.toJson_tree h

/-! ## Complaints about the value -/

theorem get?_value (rule : Rule) :
    rule.value.get? "name" = some (.string rule.name) ∧
      rule.value.get? "when" = some rule.condition.toSpec ∧
      rule.value.get? "category" = rule.category.map .string := by
  obtain ⟨name, condition, category⟩ := rule
  cases category <;> simp [Rule.value, Json.get?_ofEntries, Json.entryValues, optionalEntry]

theorem nameOf?_value (rule : Rule) : nameOf? rule.value = some rule.name := by
  rw [nameOf?_eq_some_iff, (get?_value rule).1]

theorem namesBefore_value (rules : List Rule) (i : ℕ) :
    namesBefore (rules.map Rule.value) i = ((rules.map Rule.name).take i).reverse := by
  simp [namesBefore, ← List.map_take, List.filterMap_map, nameOf?_value]

/-- A name that is not empty, nor that of a rule before, is not complained about. -/
theorem nameComplaint_value {i : ℕ} (hrule : s.rules[i]? = some rule) (hname : rule.name ≠ "")
    (hdistinct : (s.rules.map Rule.name).Nodup) :
    nameComplaint i (namesBefore (s.rules.map Rule.value) i) rule.value = [] := by
  have hfrom : rule.name ∈ (s.rules.map Rule.name).drop i := by
    refine List.mem_of_getElem? (i := 0) ?_
    simp [hrule]
  rw [← List.take_append_drop i (s.rules.map Rule.name)] at hdistinct
  have hbefore : rule.name ∉ (s.rules.map Rule.name).take i := fun hmem =>
    (List.nodup_append.mp hdistinct).2.2 _ hmem _ hfrom rfl
  rw [namesBefore_value, nameComplaint, nameOf?_value]
  simp [hname, hbefore]

/-- Nothing is complained about in the value of a rule set if its rules have names, each its own. -/
theorem complaints_value (h : ∀ rule ∈ s.rules, rule.Readable)
    (hnames : ∀ rule ∈ s.rules, rule.name ≠ "") (hdistinct : (s.rules.map Rule.name).Nodup) :
    complaints s.value = [] := by
  have hrules : s.value.get? "rules" = some (.array (s.rules.map Rule.value)) := rfl
  have hsettings : RuleSet.readSettings (Json.object [("firstMatch", .bool s.firstMatch)]) =
      .ok s.firstMatch := rfl
  rw [List.eq_nil_iff_forall_not_mem]
  refine forall_complaints_iff.mpr ⟨?list, ?rules, ?settings⟩
  case list => simp [forall_listComplaint_iff strict_false, hrules]
  case settings =>
    rw [forall_settingsComplaint_iff strict_false]
    rintro w hw
    cases hw
    exact ⟨s.firstMatch, hsettings⟩
  case rules =>
    rw [rulesOf, hrules]
    simp only [List.getElem?_map, Option.map_eq_some_iff]
    rintro i - ⟨rule, hrule, rfl⟩
    have hmem := List.mem_of_getElem? hrule
    obtain ⟨-, hwhen, hcategory⟩ := get?_value rule
    refine ⟨?name, ?condition, ?category⟩
    case name => simp [nameComplaint_value hrule (hnames rule hmem) hdistinct]
    case condition =>
      rw [forall_conditionComplaint_iff strict_false]
      exact ⟨_, hwhen, rule.condition, (h rule hmem).ofSpec_written⟩
    case category => simp [forall_categoryComplaint_iff, hcategory]

/-- A saved rule file is verified without a complaint if its rules have names, each its own. -/
theorem verify_text (h : ∀ rule ∈ s.rules, rule.Readable) (htexts : ∀ t ∈ s.texts, Plain t)
    (hnames : ∀ rule ∈ s.rules, rule.name ≠ "") (hdistinct : (s.rules.map Rule.name).Nodup) :
    verify (text s) = .ok [] := by
  rw [verify, valueOfText_text h htexts]
  exact congrArg Except.ok (complaints_value h hnames hdistinct)

/-! ## The example rules -/

/-- The specs of the example rules can be read, and are those of their conditions. -/
theorem readExamples_eq : readExamples = .ok exampleRules :=
  toOption_eq_some_iff.mp (by decide +kernel)

theorem exampleRules_readable : ∀ rule ∈ exampleRules.rules, rule.Readable := by
  have hfinite : Float.isFinite 100 = true := by decide +kernel
  have hvalue : floatValue (Decimal.jsonText 100).toList = .ok 100 := by decide +kernel
  have hday : FitsDateValue 6 ∧ DateComponent.weekday.InRange 6 := ⟨by simp [FitsDateValue], by decide⟩
  have htime : TimeOfDay.IsValid ⟨18, 0, none⟩ := by decide
  have hleaves : ∀ rule ∈ exampleRules.rules, ∀ l ∈ rule.condition.leaves, l.WellFormed ∧ l.ReadsBack := by
    simp [exampleRules, Condition.leaves, Leaf.WellFormed, Leaf.ReadsBack, Decimal.ReadsBack, hfinite,
      hvalue, hday, htime]
  exact fun rule hrule => Rule.readable_of_leaves (hleaves rule hrule)

theorem exampleRules_plain : ∀ t ∈ exampleRules.texts, Plain t := by decide

section
variable {files : FileTree} {path : String}
  (h : files.lookup (.ofText path) = .ok (.file (text exampleRules)))

include h

/-- A rule file with the example rules is loaded as these. -/
theorem load_examples : load files path = .ok exampleRules := by
  rw [load_of_lookup exampleRules_readable h, if_pos exampleRules_plain]

/-- Nothing is complained about in a rule file with the example rules. -/
theorem verifyAt_examples : verifyAt files path = .ok [] := by
  obtain ⟨hcontains, hread⟩ := FileTree.read_of_lookup h
  have hverify := verify_text exampleRules_readable exampleRules_plain (by decide) (by decide)
  rw [verifyAt, if_pos hcontains]
  simp only [bind_eq_ok, mapError_eq_ok]
  exact ⟨_, hread, hverify⟩

end

end RuleFile

end ReceiptRules

import ReceiptRules.Proofs.Reading.Document
import ReceiptRules.Rule

/-!
# Which trees are rules, settings and rule sets

The conditions under which the tree of a text with a value is read as a rule, as settings or as a rule
set, said of the values under its keys.
-/

namespace ReceiptRules

open Document Json5

section
variable {ν : Type} [Document ν]

/-! ## Fields of rules -/

instance : Inhabited Rule.Draft := ⟨{}⟩

instance : Inhabited RuleSet := ⟨{}⟩

namespace Rule

def nameField : Field ν Draft :=
  ⟨"name", true, fun v d => do return { d with name := some (← readString v) }⟩

def conditionField : Field ν Draft :=
  ⟨"when", true, fun v d => do return { d with condition := some (← Condition.read v) }⟩

def categoryField : Field ν Draft :=
  ⟨"category", false, fun v d => do return { d with category := ← readOptional readString v }⟩

theorem record_fields : (record (ν := ν)).fields = [nameField, conditionField, categoryField] := rfl

theorem mem_record_fields {f : Field ν Draft} :
    f ∈ record.fields ↔ f = nameField ∨ f = conditionField ∨ f = categoryField := by
  simp [record_fields]

theorem nameField_sets :
    (nameField (ν := ν)).Sets readString fun name d => { d with name := some name } := by
  intro v d
  simp only [nameField]
  cases readString v <;> rfl

theorem conditionField_sets :
    (conditionField (ν := ν)).Sets Condition.read fun c d => { d with condition := some c } := by
  intro v d
  simp only [conditionField]
  cases Condition.read v <;> rfl

theorem categoryField_sets :
    (categoryField (ν := ν)).Sets (readOptional readString) fun c d => { d with category := c } := by
  intro v d
  simp only [categoryField]
  cases readOptional readString v <;> rfl

theorem record_lawful : (record (ν := ν)).Lawful where
  names := by simp [record_fields, nameField, conditionField, categoryField]
  uniform := by
    intro f hf v s s' h
    rcases mem_record_fields.mp hf with rfl | rfl | rfl
    · exact nameField_sets.accepts_of_read h
    · exact conditionField_sets.accepts_of_read h
    · exact categoryField_sets.accepts_of_read h

theorem record_decides_name :
    (record (ν := ν)).Decides "name" Draft.name fun v => (readString v).map some := by
  refine Record.decides_of_sets record_lawful (f := nameField) (by simp [mem_record_fields])
    nameField_sets (fun _ _ => rfl) ?_
  intro f hf hne v s s' h
  rcases mem_record_fields.mp hf with rfl | rfl | rfl
  · exact absurd rfl hne
  · exact conditionField_sets.part_frame (fun _ _ => rfl) h
  · exact categoryField_sets.part_frame (fun _ _ => rfl) h

theorem record_decides_condition :
    (record (ν := ν)).Decides "when" Draft.condition fun v => (Condition.read v).map some := by
  refine Record.decides_of_sets record_lawful (f := conditionField) (by simp [mem_record_fields])
    conditionField_sets (fun _ _ => rfl) ?_
  intro f hf hne v s s' h
  rcases mem_record_fields.mp hf with rfl | rfl | rfl
  · exact nameField_sets.part_frame (fun _ _ => rfl) h
  · exact absurd rfl hne
  · exact categoryField_sets.part_frame (fun _ _ => rfl) h

variable {entries : List (Except Json5.Error String × ν)} {v : ν}

/-- Once the needed fields are read, a draft makes a rule. -/
theorem read_object_isOk_iff_record (hv : view v = .ok (.object entries)) :
    (∃ rule, Rule.read v = .ok rule) ↔ ∃ d, record.read {} v = .ok d := by
  constructor
  · intro h
    rcases h with ⟨rule, h⟩
    obtain ⟨d, hd, -⟩ := bind_eq_ok.mp h
    exact ⟨d, hd⟩
  · intro h
    rcases h with ⟨d, hd⟩
    have hfields := ((Record.read_object_isOk_iff record_lawful hv).mp ⟨d, hd⟩).2
    simp only [record_fields, List.forall_mem_cons, nameField_sets.holds_iff_of_required rfl,
      conditionField_sets.holds_iff_of_required rfl] at hfields
    obtain ⟨⟨w, hw, -⟩, ⟨u, hu, -⟩, -⟩ := hfields
    have hmemw : w ∈ valuesUnder "name" entries := hw ▸ List.mem_singleton_self w
    have hmemu : u ∈ valuesUnder "when" entries := hu ▸ List.mem_singleton_self u
    have hname := (Record.read_object_part record_lawful record_decides_name hv hd).2 w hmemw
    have hcondition := (Record.read_object_part record_lawful record_decides_condition hv hd).2 u hmemu
    obtain ⟨name, -, hname⟩ := map_eq_ok.mp hname
    obtain ⟨condition, -, hcondition⟩ := map_eq_ok.mp hcondition
    refine ⟨⟨name, condition, d.category⟩, bind_eq_ok.mpr ⟨d, hd, ?_⟩⟩
    rw [ofDraft, ← hname, ← hcondition]

/-- An object is a rule if it has a name and a condition, and a category at most once that is null or a
string. -/
theorem read_object_isOk_iff (hv : view v = .ok (.object entries)) :
    (∃ rule, Rule.read v = .ok rule) ↔
      (∀ e ∈ entries, record.Passes e) ∧
        (∃ w, valuesUnder "name" entries = [w] ∧ ∃ s, readString w = .ok s) ∧
        (∃ w, valuesUnder "when" entries = [w] ∧ ∃ c, Condition.read w = .ok c) ∧
        (valuesUnder "category" entries).length ≤ 1 ∧
        ∀ w ∈ valuesUnder "category" entries, ∃ o, readOptional readString w = .ok o := by
  rw [read_object_isOk_iff_record hv, Record.read_object_isOk_iff record_lawful hv]
  simp only [record_fields, List.forall_mem_cons, nameField_sets.holds_iff_of_required rfl,
    conditionField_sets.holds_iff_of_required rfl, categoryField_sets.holds_iff_of_optional rfl]
  simp [nameField, conditionField, categoryField]

end Rule

/-! ## Settings -/

namespace RuleSet

variable {entries : List (Except Json5.Error String × ν)} {v : ν}

def firstMatchField : Field ν Bool := ⟨"firstMatch", false, fun v _ => readBool v⟩

theorem settingsRecord_fields : (settingsRecord (ν := ν)).fields = [firstMatchField] := rfl

theorem firstMatchField_sets : (firstMatchField (ν := ν)).Sets readBool fun b _ => b := by
  intro v s
  simp only [firstMatchField]
  cases readBool v <;> rfl

theorem settingsRecord_lawful : (settingsRecord (ν := ν)).Lawful where
  names := by simp [settingsRecord_fields]
  uniform := by
    intro f hf v s s' h
    obtain rfl := List.mem_singleton.mp hf
    exact firstMatchField_sets.accepts_of_read h

theorem readSettings_object_isOk_iff (hv : view v = .ok (.object entries)) :
    (∃ b, readSettings v = .ok b) ↔
      (∀ e ∈ entries, settingsRecord.Passes e) ∧
        (valuesUnder "firstMatch" entries).length ≤ 1 ∧
        ∀ w ∈ valuesUnder "firstMatch" entries, ∃ b, readBool w = .ok b := by
  rw [readSettings, Record.read_object_isOk_iff settingsRecord_lawful hv]
  simp only [settingsRecord_fields, List.forall_mem_cons,
    firstMatchField_sets.holds_iff_of_optional rfl]
  simp [firstMatchField]

/-- Settings may be given as a list, in which only the first element is looked at. -/
theorem readSettings_array_isOk_iff {items : List ν} (hv : view v = .ok (.array items)) :
    (∃ b, readSettings v = .ok b) ↔
      (items.length ≤ 1 ∨ surplusAllowed ν = true) ∧ ∀ w ∈ items.head?, ∃ b, readBool w = .ok b := by
  simp only [readSettings, Record.read_array_eq_ok hv, settingsRecord_fields]
  cases items with
  | nil => simp [Record.readItems, firstMatchField]
  | cons w rest =>
    rw [and_comm]
    simp [Record.readItems, firstMatchField]

/-! ## Rule sets -/

def rulesField : Field ν RuleSet :=
  ⟨"rules", false, fun v s => do return { s with rules := ← readList Rule.read v }⟩

def settingsField : Field ν RuleSet :=
  ⟨"settings", false, fun v s => do return { s with firstMatch := ← readSettings v }⟩

theorem record_fields : (record (ν := ν)).fields = [rulesField, settingsField] := rfl

theorem mem_record_fields {f : Field ν RuleSet} :
    f ∈ record.fields ↔ f = rulesField ∨ f = settingsField := by
  simp [record_fields]

theorem rulesField_sets :
    (rulesField (ν := ν)).Sets (readList Rule.read) fun rules s => { s with rules := rules } := by
  intro v s
  simp only [rulesField]
  cases readList Rule.read v <;> rfl

theorem settingsField_sets :
    (settingsField (ν := ν)).Sets readSettings fun b s => { s with firstMatch := b } := by
  intro v s
  simp only [settingsField]
  cases readSettings v <;> rfl

theorem record_lawful : (record (ν := ν)).Lawful where
  names := by simp [record_fields, rulesField, settingsField]
  uniform := by
    intro f hf v s s' h
    rcases mem_record_fields.mp hf with rfl | rfl
    · exact rulesField_sets.accepts_of_read h
    · exact settingsField_sets.accepts_of_read h

theorem record_decides_rules :
    (record (ν := ν)).Decides "rules" RuleSet.rules fun v => (readList Rule.read v).map id := by
  refine Record.decides_of_sets record_lawful (f := rulesField) (by simp [mem_record_fields])
    rulesField_sets (fun _ _ => rfl) ?_
  intro f hf hne v s s' h
  rcases mem_record_fields.mp hf with rfl | rfl
  · exact absurd rfl hne
  · exact settingsField_sets.part_frame (fun _ _ => rfl) h

/-- An object is a rule set if it has a list of rules at most once, and settings at most once. -/
theorem read_object_isOk_iff (hv : view v = .ok (.object entries)) :
    (∃ s, RuleSet.read v = .ok s) ↔
      (∀ e ∈ entries, record.Passes e) ∧
        ((valuesUnder "rules" entries).length ≤ 1 ∧
          ∀ w ∈ valuesUnder "rules" entries, ∃ rules, readList Rule.read w = .ok rules) ∧
        (valuesUnder "settings" entries).length ≤ 1 ∧
        ∀ w ∈ valuesUnder "settings" entries, ∃ b, readSettings w = .ok b := by
  rw [RuleSet.read, Record.read_object_isOk_iff record_lawful hv]
  simp only [record_fields, List.forall_mem_cons, rulesField_sets.holds_iff_of_optional rfl,
    settingsField_sets.holds_iff_of_optional rfl]
  simp [rulesField, settingsField]

/-- The rules of a rule set that is read from an object. -/
theorem rules_of_read_object {s : RuleSet} (hv : view v = .ok (.object entries))
    (h : RuleSet.read v = .ok s) :
    (valuesUnder "rules" entries = [] → s.rules = []) ∧
      ∀ w ∈ valuesUnder "rules" entries, readList Rule.read w = .ok s.rules := by
  obtain ⟨hnone, hsome⟩ := Record.read_object_part record_lawful record_decides_rules hv h
  refine ⟨hnone, fun w hw => ?_⟩
  obtain ⟨rules, hrules, hs⟩ := map_eq_ok.mp (hsome w hw)
  rw [hrules, ← hs]
  rfl

/-- A rule set may be given as a list: its rules, its settings, and anything after them. -/
theorem read_array_eq_ok_iff {items : List ν} (hv : view v = .ok (.array items))
    (hsurplus : surplusAllowed ν = true) {rules : List Rule} :
    (∃ s, RuleSet.read v = .ok s ∧ s.rules = rules) ↔
      (items = [] → rules = []) ∧ (∀ w ∈ items.head?, readList Rule.read w = .ok rules) ∧
        ∀ w ∈ items[1]?, ∃ b, readSettings w = .ok b := by
  simp only [RuleSet.read, Record.read_array_eq_ok hv, record_fields, hsurplus]
  match items with
  | [] => simp [Record.readItems, rulesField, settingsField]
  | [w] => simp [Record.readItems, rulesField, settingsField]
  | w :: u :: rest =>
    simp only [Record.readItems, rulesField, settingsField, bind_eq_ok, pure_eq_ok, or_true, and_true]
    constructor
    · intro h
      rcases h with ⟨s, ⟨surplus, _, ⟨rules, hrules, rfl⟩, _, ⟨b, hb, rfl⟩, hs⟩, rfl⟩
      cases hs
      refine ⟨by simp, fun w hw => ?_, fun w hw => ?_⟩
      · cases hw
        exact hrules
      · cases hw
        exact ⟨b, hb⟩
    · intro h
      rcases h with ⟨-, hrules, hsettings⟩
      obtain ⟨b, hb⟩ := hsettings u rfl
      exact ⟨⟨rules, b⟩, ⟨rest, _, ⟨rules, hrules w rfl, rfl⟩, _, ⟨b, hb, rfl⟩, rfl⟩, rfl⟩

end RuleSet

end

end ReceiptRules

import ReceiptRules.Proofs.Condition.SpecParts
import ReceiptRules.Proofs.Files
import ReceiptRules.Proofs.RuleFile.Records
import ReceiptRules.RuleFile.Store

/-!
# Saved rule files

A rule file that was saved is loaded again with the same rules and settings, unless a line separator
stands in one of its texts: then it was written, but no longer is JSON5 (`load_save`).
-/

namespace ReceiptRules

open Document Json5
open Json (Plain components)

variable {rule : Rule} {s : RuleSet}

/-- The texts in a rule: its name, those in its condition and its category. -/
def Rule.texts (rule : Rule) : List String :=
  rule.name :: rule.condition.leaves.flatMap Leaf.texts ++ rule.category.toList

def RuleSet.texts (s : RuleSet) : List String := s.rules.flatMap Rule.texts

/-! ## Reading rules -/

/-- A rule whose condition is that of some spec, and whose thresholds are read back as they are written. -/
structure Rule.Readable (rule : Rule) : Prop where
  condition : ∃ spec, Condition.ofSpec spec = .ok rule.condition
  thresholds : ∀ l ∈ rule.condition.leaves, l.ReadsBack

theorem Rule.readable_of_leaves (h : ∀ l ∈ rule.condition.leaves, l.WellFormed ∧ l.ReadsBack) :
    rule.Readable where
  condition := by
    have hwell := (Condition.wellFormed_iff _).mpr fun l hl => (h l hl).1
    exact ⟨_, Condition.ofSpec_eq_ok_iff.mpr (Condition.denotes_toSpec_iff.mpr ⟨hwell, rfl⟩)⟩
  thresholds l hl := (h l hl).2

theorem Rule.Readable.wellFormed (h : rule.Readable) : rule.condition.WellFormed := by
  obtain ⟨spec, hspec⟩ := h.condition
  exact (Condition.ofSpec_eq_ok_iff.mp hspec).wellFormed

theorem Rule.Readable.ofSpec_written (h : rule.Readable) :
    Condition.ofSpec rule.condition.toSpec = .ok rule.condition :=
  Condition.ofSpec_eq_ok_iff.mpr (Condition.denotes_toSpec_iff.mpr ⟨h.wellFormed, rfl⟩)

theorem Rule.Readable.read_condition (h : rule.Readable) :
    Condition.read rule.condition.toSpec.tree = .ok rule.condition := by
  have hvalue : readJson rule.condition.toSpec.tree = .ok rule.condition.toSpec :=
    mapError_eq_ok.mpr (Condition.toJson_tree_toSpec h.wellFormed h.thresholds)
  rw [Condition.read, hvalue]
  exact mapError_eq_ok.mpr h.ofSpec_written

theorem view_object_tree (entries : List (String × Json)) :
    view (Json.object entries).tree =
      .ok (.object (entries.map fun e => (.ok e.1, e.2.tree))) := by
  have hentries : (Json.entryTrees entries).map (fun e => (decodeString e.1, e.2)) =
      entries.map fun e => (.ok e.1, e.2.tree) := by
    induction entries with
    | nil => rfl
    | cons e entries ih =>
      obtain ⟨key, value⟩ := e
      simp [Json.entryTrees, ih]
  simp only [view, Json.tree, viewOfNode, hentries]

theorem readString_tree (text : String) : readString (Json.string text).tree = .ok text := by
  rw [readString_eq_ok_iff]
  simp [view, Json.tree, viewOfNode, Except.map]

theorem readOptional_tree (text : String) :
    readOptional readString (Json.string text).tree = .ok (some text) := by
  rw [readOptional, if_neg (by simp [isNull, Json.tree]), readString_tree]
  rfl

theorem Rule.Readable.read (h : rule.Readable) : Rule.read rule.toJson.tree = .ok rule := by
  obtain ⟨name, condition, category⟩ := rule
  have hname := readString_tree name
  have hcondition := h.read_condition
  have hrequired : ∀ {seen : List String}, "name" ∈ seen → "when" ∈ seen →
      ∀ f ∈ (Rule.record (ν := Node)).fields, f.required = true → f.name ∈ seen := by
    intro seen hname hwhen
    simp [Rule.record_fields, Rule.nameField, Rule.conditionField, Rule.categoryField, hname, hwhen]
  have hdraft : Rule.record.read {} (Rule.toJson ⟨name, condition, category⟩).tree =
      .ok ⟨some name, some condition, category⟩ := by
    refine (Record.read_object_eq_ok (view_object_tree _)).mpr ?_
    cases category with
    | none =>
      refine ⟨["when", "name"], ?_, hrequired (by simp) (by simp)⟩
      refine Record.readEntries_sets Rule.nameField_sets hname rfl (by simp) ?_
      exact Record.readEntries_sets Rule.conditionField_sets hcondition rfl (by decide) rfl
    | some category =>
      have hcategory := readOptional_tree category
      refine ⟨["category", "when", "name"], ?_, hrequired (by simp) (by simp)⟩
      refine Record.readEntries_sets Rule.nameField_sets hname rfl (by simp) ?_
      refine Record.readEntries_sets Rule.conditionField_sets hcondition rfl (by decide) ?_
      exact Record.readEntries_sets Rule.categoryField_sets hcategory rfl (by decide) rfl
  rw [Rule.read, hdraft]
  rfl

/-! ## Reading rule sets -/

namespace RuleSet

theorem readList_tree (h : ∀ rule ∈ s.rules, rule.Readable) :
    readList Rule.read (Json.array (s.rules.map Rule.toJson)).tree = .ok s.rules := by
  have hview : view (Json.array (s.rules.map Rule.toJson)).tree =
      .ok (.array (s.rules.map fun rule => rule.toJson.tree)) := by
    simp [view, Json.tree, viewOfNode, Json.itemTrees_eq_map, Function.comp_def]
  refine readList_eq_ok_iff.mpr ⟨_, hview, ?_⟩
  rw [List.forall₂_map_left_iff, List.forall₂_same]
  exact fun rule hrule => (h rule hrule).read

theorem readSettings_tree (b : Bool) :
    readSettings (Json.object [("firstMatch", .bool b)]).tree = .ok b := by
  have hbool : readBool (Json.bool b).tree = .ok b := readBool_eq_ok_iff.mpr rfl
  refine (Record.read_object_eq_ok (view_object_tree _)).mpr ⟨["firstMatch"], ?_, ?_⟩
  · exact Record.readEntries_sets firstMatchField_sets hbool rfl (by simp) rfl
  · simp [settingsRecord_fields, firstMatchField]

theorem read_tree (h : ∀ rule ∈ s.rules, rule.Readable) : read s.toJson.tree = .ok s := by
  have hsettings := readSettings_tree s.firstMatch
  refine (Record.read_object_eq_ok (view_object_tree _)).mpr ⟨["settings", "rules"], ?_, ?_⟩
  · refine Record.readEntries_sets rulesField_sets (readList_tree h) rfl (by simp) ?_
    exact Record.readEntries_sets settingsField_sets hsettings rfl (by decide) rfl
  · simp [record_fields, rulesField, settingsField]

end RuleSet

/-! ## The saved file -/

theorem Rule.plain_toJson_iff (rule : Rule) :
    (∀ t ∈ rule.toJson.texts, Plain t) ↔ ∀ t ∈ rule.texts, Plain t := by
  have hname : Plain "name" := by decide
  have hwhen : Plain "when" := by decide
  have hcategory : Plain "category" := by decide
  obtain ⟨name, condition, category⟩ := rule
  have hcondition := condition.plain_toSpec_iff
  cases category <;>
    simp only [toJson, texts, Json.texts, Json.entryTexts, List.forall_mem_cons, List.forall_mem_append,
      List.forall_mem_flatMap, hcondition, hname, hwhen, hcategory, List.cons_append,
      List.nil_append, List.append_nil, Option.toList, true_and]

theorem RuleSet.plain_toJson_iff (s : RuleSet) :
    (∀ t ∈ s.toJson.texts, Plain t) ↔ ∀ t ∈ s.texts, Plain t := by
  have hrules : Plain "rules" := by decide
  have hsettings : Plain "settings" := by decide
  have hfirst : Plain "firstMatch" := by decide
  simp only [toJson, texts, Json.texts, Json.entryTexts, Json.itemTexts_eq_flatMap,
    List.forall_mem_cons, List.forall_mem_append, List.forall_mem_flatMap, List.forall_mem_map,
    List.not_mem_nil, false_implies, implies_true, hrules, hsettings, hfirst, Rule.plain_toJson_iff,
    true_and, and_true]

namespace RuleFile

theorem ofText_text (h : ∀ rule ∈ s.rules, rule.Readable) :
    RuleSet.ofText (text s) =
      if ∀ t ∈ s.texts, Plain t then .ok s else .error (.unreadable .malformedText) := by
  have htree := Json.ofText?_write s.toJson (some 0)
  rw [RuleSet.ofText, text, Json.pretty, htree]
  by_cases htexts : ∀ t ∈ s.texts, Plain t
  · rw [if_pos htexts, if_pos (s.plain_toJson_iff.mpr htexts)]
    exact RuleSet.read_tree h
  · rw [if_neg htexts, if_neg fun hall => htexts (s.plain_toJson_iff.mp hall)]

theorem exists_write_of_save {tree saved : FileTree} {path : String}
    (h : save tree path s = (saved, .ok ())) : ∃ made : FileTree, made.write path (text s) = .ok saved := by
  rw [save] at h
  split at h
  · cases h
  · next made _ =>
    split at h
    · next written hwritten =>
      obtain rfl : written = saved := congrArg Prod.fst h
      exact ⟨made, hwritten⟩
    · cases h

theorem load_of_lookup {tree : FileTree} {path : String} (h : ∀ rule ∈ s.rules, rule.Readable)
    (hlookup : tree.lookup (.ofText path) = .ok (.file (text s))) :
    load tree path =
      if ∀ t ∈ s.texts, Plain t then .ok s
      else .error (.cannotParse path (.unreadable .malformedText)) := by
  obtain ⟨hcontains, hread⟩ := FileTree.read_of_lookup hlookup
  have hload : load tree path = (RuleSet.ofText (text s)).mapError (.cannotParse path) := by
    rw [load, if_pos hcontains, hread]
    rfl
  rw [hload, ofText_text h]
  split_ifs <;> rfl

theorem save_of_write {made saved : FileTree} {path : String}
    (hwrite : made.write path (text s) = .ok saved) : save saved path s = (saved, .ok ()) := by
  have hagain := FileTree.write_write hwrite
  obtain ⟨place, hlocate, -⟩ := FileTree.exists_of_write hagain
  rw [save, FileTree.makeParent_of_locate hlocate]
  simp only [hagain]

/-- A rule file that was saved holds the text of the rules. It is loaded as these rules if all their texts
are plain, and otherwise is no JSON5. Saving the rules once more changes nothing. -/
theorem load_save {tree saved : FileTree} {path : String} (h : ∀ rule ∈ s.rules, rule.Readable)
    (hsave : save tree path s = (saved, .ok ())) :
    saved.read path = .ok (text s) ∧
      (load saved path =
        if ∀ t ∈ s.texts, Plain t then .ok s
        else .error (.cannotParse path (.unreadable .malformedText))) ∧
      save saved path s = (saved, .ok ()) := by
  obtain ⟨made, hwrite⟩ := exists_write_of_save hsave
  have hlookup := FileTree.lookup_write hwrite
  exact ⟨(FileTree.read_of_lookup hlookup).2, load_of_lookup h hlookup, save_of_write hwrite⟩

/-- The tree in which rules are saved where no file was. -/
def savedTree (s : RuleSet) : FileTree := { entries := [(["rules.json"], .file (text s))] }

theorem write_empty (s : RuleSet) : FileTree.write {} "rules.json" (text s) = .ok (savedTree s) := by
  have hpath : FilePath.ofText "rules.json" = ⟨false, ["rules.json"], false⟩ := by decide +kernel
  rw [FileTree.write, hpath]
  rfl

theorem save_empty (s : RuleSet) : save {} "rules.json" s = (savedTree s, .ok ()) := by
  have hpath : FilePath.ofText "rules.json" = ⟨false, ["rules.json"], false⟩ := by decide +kernel
  have hparent : FileTree.makeParent {} "rules.json" = ({}, .ok ()) := by
    rw [FileTree.makeParent, hpath]
    rfl
  rw [save, hparent]
  simp only [write_empty]

/-- A rule with a double in its condition and with characters that are written as escapes. -/
def escapedRule : Rule := ⟨"\"large\"\n", .leaf (.amount .greater 2.5), some "\\\x00"⟩

theorem escapedRule_readable : escapedRule.Readable where
  condition := ⟨.object [("amount", .array [.string ">", .number (.float 2.5 rfl)])], rfl⟩
  thresholds := by
    have hvalue : floatValue (Decimal.jsonText 2.5).toList = .ok 2.5 := by decide +kernel
    simpa [escapedRule, Condition.leaves, Leaf.ReadsBack, Decimal.ReadsBack]

theorem load_save_escapedRule :
    (savedTree ⟨[escapedRule], true⟩).read "rules.json" = .ok (text ⟨[escapedRule], true⟩) ∧
      (load (savedTree ⟨[escapedRule], true⟩) "rules.json" =
        if ∀ t ∈ RuleSet.texts ⟨[escapedRule], true⟩, Plain t then .ok ⟨[escapedRule], true⟩
        else .error (.cannotParse "rules.json" (.unreadable .malformedText))) ∧
      save (savedTree ⟨[escapedRule], true⟩) "rules.json" ⟨[escapedRule], true⟩ =
        (savedTree ⟨[escapedRule], true⟩, .ok ()) :=
  load_save (by simpa using escapedRule_readable) (save_empty _)

/-- A rule whose name is a line separator. -/
def separatorRule : Rule := { name := "\u2028", condition := .combination .any [] }

/-- A rule file that was saved, and cannot be loaded. -/
theorem saved_without_loading :
    Condition.ofSpec (.object [("$or", .array [])]) = .ok separatorRule.condition ∧
      save {} "rules.json" ⟨[separatorRule], false⟩ = (savedTree ⟨[separatorRule], false⟩, .ok ()) ∧
      load (savedTree ⟨[separatorRule], false⟩) "rules.json" =
        .error (.cannotParse "rules.json" (.unreadable .malformedText)) := by
  have hreadable : separatorRule.Readable :=
    ⟨⟨.object [("$or", .array [])], rfl⟩, by simp [separatorRule, Condition.leaves, Condition.allLeaves]⟩
  refine ⟨rfl, save_empty _, ?_⟩
  have hlookup := FileTree.lookup_write (write_empty ⟨[separatorRule], false⟩)
  rw [load_of_lookup (by simpa using hreadable) hlookup, if_neg (by decide)]

end RuleFile

end ReceiptRules

import ReceiptRules.Proofs.RuleFile.Records
import ReceiptRules.RuleFile.Verification

/-!
# Rules and settings in trees and in their values

A tree is read as a rule or as settings under two conditions: no field is written twice, and the value of
the tree is right. The second condition is the one that the verification of a file looks at.
-/

namespace ReceiptRules

open Document Json5 RuleFile

variable {n : Node} {j : Json}

/-! ## Parts of rules -/

theorem readString_node_iff (h : n.toJson = .ok j) {s : String} :
    readString n = .ok s ↔ j = .string s :=
  readString_eq_ok_iff.trans ((Node.view_eq_iff h).1 s)

theorem readBool_node_iff (h : n.toJson = .ok j) {b : Bool} : readBool n = .ok b ↔ j = .bool b :=
  readBool_eq_ok_iff.trans ((Node.view_eq_iff h).2 b)

theorem readBool_json_iff {b : Bool} : readBool j = .ok b ↔ j = .bool b := by
  rw [readBool_eq_ok_iff]
  cases j with
  | number m => cases m <;> simp [view, viewOfJson]
  | _ => simp [view, viewOfJson]

theorem read_condition_node_iff (h : n.toJson = .ok j) {c : Condition} :
    Condition.read n = .ok c ↔ Condition.ofSpec j = .ok c := by
  have hjson : readJson n = .ok j := mapError_eq_ok.mpr h
  simp [Condition.read, hjson]

/-- A category is a string, or the word for null; a number that has no value but null is not one. -/
theorem readOptional_node_iff (h : n.toJson = .ok j) :
    (∃ o, readOptional readString n = .ok o) ↔ n = .null ∨ ∃ s, j = .string s := by
  cases n with
  | null => simp [readOptional, isNull]
  | _ =>
    simp only [readOptional, isNull, Bool.false_eq_true, if_false, map_eq_ok, reduceCtorEq, false_or,
      readString_node_iff h]
    constructor
    · intro h'
      rcases h' with ⟨_, s, hs, -⟩
      exact ⟨s, hs⟩
    · intro h'
      rcases h' with ⟨s, hs⟩
      exact ⟨some s, s, hs, rfl⟩

/-! ## Rules -/

/-- The fields of rules are each written once at most. -/
structure Json5.Node.RegularRule (n : Node) : Prop where
  name : (n.values "name").length ≤ 1
  condition : (n.values "when").length ≤ 1
  category : (n.values "category").length ≤ 1

theorem nameOf?_eq_some_iff {s : String} : nameOf? j = some s ↔ j.get? "name" = some (.string s) := by
  rw [nameOf?, Option.bind_eq_some_iff]
  constructor
  · intro h
    rcases h with ⟨w, hw, hs⟩
    cases w with
    | string t =>
      obtain rfl : t = s := Option.some.inj hs
      exact hw
    | _ => cases hs
  · exact fun h => ⟨.string s, h, rfl⟩

/-- The category of a rule is right if it is a string, or is written as null. -/
theorem categories_iff (h : n.toJson = .ok j) (hlen : (n.values "category").length ≤ 1) :
    (∀ v ∈ n.values "category", ∃ o, readOptional readString v = .ok o) ↔
      ∀ w, j.get? "category" = some w → (∃ s, w = .string s) ∨ .null ∈ n.values "category" := by
  refine Node.forall_values_iff h hlen fun v hv w hw => ?_
  have hvalues : n.values "category" = [v] := by
    obtain hnone | ⟨u, hu⟩ := eq_nil_or_singleton hlen
    · simp [hnone] at hv
    · rw [hu] at hv ⊢
      rw [List.mem_singleton.mp hv]
  rw [readOptional_node_iff hw, hvalues, List.mem_singleton, or_comm, eq_comm]

/-- An object is read as a rule if each field is written once at most, and name, condition and category
are right. -/
theorem Rule.read_node_isOk_iff {entries : List (List Component × Node)}
    (hn : n = .object entries) (h : n.toJson = .ok j) :
    (∃ rule, Rule.read n = .ok rule) ↔
      n.RegularRule ∧ (∃ s, nameOf? j = some s) ∧
        (∃ spec, j.get? "when" = some spec ∧ ∃ c, Condition.ofSpec spec = .ok c) ∧
        ∀ w, j.get? "category" = some w → (∃ s, w = .string s) ∨ .null ∈ n.values "category" := by
  have hread : (∃ rule, Rule.read n = .ok rule) ↔
      (∃ v, n.values "name" = [v] ∧ ∃ s, readString v = .ok s) ∧
        (∃ v, n.values "when" = [v] ∧ ∃ c, Condition.read v = .ok c) ∧
        (n.values "category").length ≤ 1 ∧
        ∀ v ∈ n.values "category", ∃ o, readOptional readString v = .ok o := by
    subst hn
    rw [Rule.read_object_isOk_iff rfl]
    exact and_iff_right (Node.passes_of_toJson h)
  have hname : (∃ v, n.values "name" = [v] ∧ ∃ s, readString v = .ok s) ↔
      (n.values "name").length ≤ 1 ∧ ∃ w, j.get? "name" = some w ∧ ∃ s, w = .string s :=
    Node.exists_values_iff h fun v w hw => exists_congr fun s => readString_node_iff hw
  have hcondition : (∃ v, n.values "when" = [v] ∧ ∃ c, Condition.read v = .ok c) ↔
      (n.values "when").length ≤ 1 ∧
        ∃ spec, j.get? "when" = some spec ∧ ∃ c, Condition.ofSpec spec = .ok c :=
    Node.exists_values_iff h fun v w hw => exists_congr fun c => read_condition_node_iff hw
  rw [hread, hname, hcondition]
  simp only [nameOf?_eq_some_iff]
  constructor
  · intro h'
    rcases h' with ⟨⟨hname, _, hget, s, rfl⟩, ⟨hwhen, hspec⟩, honce, hcategory⟩
    exact ⟨⟨hname, hwhen, honce⟩, ⟨s, hget⟩, hspec, (categories_iff h honce).mp hcategory⟩
  · intro h'
    rcases h' with ⟨⟨hname, hwhen, honce⟩, ⟨s, hget⟩, hspec, hcategory⟩
    exact ⟨⟨hname, _, hget, s, rfl⟩, ⟨hwhen, hspec⟩, honce, (categories_iff h honce).mpr hcategory⟩

/-! ## Settings -/

theorem readSettings_json_iff {es : List (String × Json)} (h : Json.KeysAscend es) :
    (∃ b, RuleSet.readSettings (Json.object es) = .ok b) ↔
      ∀ w, (Json.object es).get? "firstMatch" = some w → ∃ b, w = .bool b := by
  have hvalues : valuesUnder "firstMatch" (es.map fun e => (.ok e.1, e.2)) =
      ((Json.object es).get? "firstMatch").toList := by
    rw [valuesUnder_json, Json.entryValues_eq_toList h, Json.get?]
  have hpasses : ∀ e ∈ es.map (fun e => (Except.ok e.1, e.2)),
      (RuleSet.settingsRecord (ν := Json)).Passes e := by
    simp only [List.forall_mem_map]
    exact fun e _ => ⟨e.1, rfl, fun _ => ⟨e.2, rfl⟩⟩
  have hread := RuleSet.readSettings_object_isOk_iff (v := Json.object es) rfl
  rw [hread, and_iff_right hpasses, hvalues]
  cases (Json.object es).get? "firstMatch" with
  | none => simp
  | some w => simp [readBool_json_iff]

/-- Settings that are an object are read from a tree if they are read from its value, and are not written
twice. -/
theorem readSettings_object_node_iff {entries : List (List Component × Node)}
    (hn : n = .object entries) (h : n.toJson = .ok j) :
    (∃ b, RuleSet.readSettings n = .ok b) ↔
      (n.values "firstMatch").length ≤ 1 ∧ ∃ b, RuleSet.readSettings j = .ok b := by
  have hread : (∃ b, RuleSet.readSettings n = .ok b) ↔
      (n.values "firstMatch").length ≤ 1 ∧ ∀ v ∈ n.values "firstMatch", ∃ b, readBool v = .ok b := by
    subst hn
    rw [RuleSet.readSettings_object_isOk_iff rfl]
    exact and_iff_right (Node.passes_of_toJson h)
  have hjson : (∃ b, RuleSet.readSettings j = .ok b) ↔
      ∀ w, j.get? "firstMatch" = some w → ∃ b, w = .bool b := by
    subst hn
    obtain ⟨es, -, rfl⟩ := map_eq_ok.mp h
    exact readSettings_json_iff (Json.keysAscend_foldl_insertEntry (by simp [Json.KeysAscend]) es)
  rw [hread, hjson]
  refine and_congr_right fun hlen => ?_
  exact Node.forall_values_iff h hlen fun v _ w hw => exists_congr fun b => readBool_node_iff hw

theorem json_of_readSettings {b : Bool} (h : RuleSet.readSettings j = .ok b) :
    (∃ es, j = .object es) ∨ ∃ js, j = .array js := by
  cases j with
  | object es => exact .inl ⟨es, rfl⟩
  | array js => exact .inr ⟨js, rfl⟩
  | number m =>
    cases m <;> rcases Record.view_of_read h with ⟨_, hv⟩ | ⟨_, hv⟩ <;> cases hv
  | _ => rcases Record.view_of_read h with ⟨_, hv⟩ | ⟨_, hv⟩ <;> cases hv

/-- Settings whose value can be read are read from the tree, if they are not written twice. -/
theorem readSettings_node_iff (h : n.toJson = .ok j) (hj : ∃ b, RuleSet.readSettings j = .ok b) :
    (∃ b, RuleSet.readSettings n = .ok b) ↔ (n.values "firstMatch").length ≤ 1 := by
  cases Node.shape_of_toJson h with
  | object hes =>
    rw [readSettings_object_node_iff rfl h]
    exact and_iff_left hj
  | @array items js hjs =>
    have hmap := Node.map_toJson_of_items hjs
    have hhead := ((RuleSet.readSettings_array_isOk_iff rfl).mp hj).2
    have hbool : ∀ v ∈ items.head?, ∃ b, readBool v = .ok b := by
      match items, js, hmap with
      | [], _, _ => simp
      | v :: _, w :: _, hmap =>
        obtain ⟨b, hb⟩ := hhead w rfl
        have hvalue : v.toJson = .ok w := (List.cons.inj hmap).1
        rintro _ ⟨⟩
        exact ⟨b, (readBool_node_iff hvalue).mpr (readBool_json_iff.mp hb)⟩
    have hread := (RuleSet.readSettings_array_isOk_iff (v := Node.array items) rfl).mpr
      ⟨.inr rfl, hbool⟩
    exact iff_of_true hread (by simp [Node.values])
  | @number text _ hvalue =>
    obtain ⟨b, hb⟩ := hj
    rcases json_of_readSettings hb with ⟨_, rfl⟩ | ⟨_, rfl⟩ <;> simp at hvalue
  | _ =>
    obtain ⟨b, hb⟩ := hj
    rcases json_of_readSettings hb with ⟨_, hj⟩ | ⟨_, hj⟩ <;> cases hj

theorem readBool_node_eq {b : Bool} : readBool n = .ok b ↔ n = .bool b :=
  readBool_eq_ok_iff.trans Node.view_eq_bool_iff

/-- The trees that are settings: objects that hold a truth value at most once, and lists that start with
one. -/
def Json5.Node.IsSettings : Node → Prop
  | .object entries =>
    ((Node.object entries).values "firstMatch").length ≤ 1 ∧
      ∀ v ∈ (Node.object entries).values "firstMatch", ∃ b, v = .bool b
  | .array items => ∀ v ∈ items.head?, ∃ b, v = .bool b
  | _ => False

theorem readSettings_isOk_iff (h : n.toJson = .ok j) :
    (∃ b, RuleSet.readSettings n = .ok b) ↔ n.IsSettings := by
  cases n with
  | object entries =>
    rw [RuleSet.readSettings_object_isOk_iff rfl, and_iff_right (Node.passes_of_toJson h)]
    simp only [readBool_node_eq]
    rfl
  | array items =>
    rw [RuleSet.readSettings_array_isOk_iff rfl, and_iff_right (.inr rfl)]
    simp only [readBool_node_eq]
    rfl
  | _ =>
    refine iff_of_false ?_ id
    intro h'
    rcases h' with ⟨b, hb⟩
    rcases Node.object_or_array_of_read hb with ⟨_, hn⟩ | ⟨_, hn⟩ <;> cases hn

/-! ## Rule sets -/

namespace Json5.Node

/-- The items of a list; other trees have none. -/
def items : Node → List Node
  | array items => items
  | _ => []

/-- The trees of the rules of a file. -/
def ruleNodes (n : Node) : List Node := (n.values "rules").flatMap items

theorem isArray_iff (h : n.toJson = .ok j) : (∃ items, n = array items) ↔ ∃ js, j = .array js := by
  cases shape_of_toJson h with
  | number hj => obtain rfl | ⟨m, rfl⟩ := hj <;> simp
  | _ => simp [Json.ofEntries]

theorem map_items (h : n.toJson = .ok j) :
    n.items.map toJson = (match j with | .array js => js | _ => []).map .ok := by
  cases shape_of_toJson h with
  | array hjs => exact map_toJson_of_items hjs
  | number hj => obtain rfl | ⟨m, rfl⟩ := hj <;> rfl
  | _ => rfl

theorem map_ruleNodes (h : n.toJson = .ok j) (hlen : (n.values "rules").length ≤ 1) :
    n.ruleNodes.map toJson = (rulesOf j).map .ok := by
  rw [ruleNodes, rulesOf]
  obtain hv | ⟨v, hv⟩ := eq_nil_or_singleton hlen
  · simp [hv, (get?_eq_none_iff h).mpr hv]
  · obtain ⟨w, hw, hget⟩ := get?_of_values h hv
    rw [hv, hget, List.flatMap_singleton, map_items hw]
    cases w <;> rfl

theorem getElem?_ruleNodes (h : n.toJson = .ok j) (hlen : (n.values "rules").length ≤ 1) (i : ℕ) :
    n.ruleNodes[i]?.map toJson = (rulesOf j)[i]?.map .ok := by
  rw [← List.getElem?_map, ← List.getElem?_map, map_ruleNodes h hlen]

theorem exists_of_getElem?_rulesOf (h : n.toJson = .ok j) (hlen : (n.values "rules").length ≤ 1)
    {i : ℕ} {w : Json} (hi : (rulesOf j)[i]? = some w) :
    ∃ rule, n.ruleNodes[i]? = some rule ∧ rule.toJson = .ok w := by
  have hnode := getElem?_ruleNodes h hlen i
  rw [hi] at hnode
  exact Option.map_eq_some_iff.mp hnode

theorem exists_of_getElem?_ruleNodes (h : n.toJson = .ok j) (hlen : (n.values "rules").length ≤ 1)
    {i : ℕ} {rule : Node} (hi : n.ruleNodes[i]? = some rule) :
    ∃ w, (rulesOf j)[i]? = some w ∧ rule.toJson = .ok w := by
  have hnode := getElem?_ruleNodes h hlen i
  rw [hi, eq_comm] at hnode
  obtain ⟨w, hw, hrule⟩ := Option.map_eq_some_iff.mp hnode
  exact ⟨w, hw, hrule.symm⟩

end Json5.Node

theorem exists_forall₂_iff {α β : Type} {R : α → β → Prop} {xs : List α} :
    (∃ ys, List.Forall₂ R xs ys) ↔ ∀ x ∈ xs, ∃ y, R x y := by
  induction xs with
  | nil => simp
  | cons x xs ih =>
    simp only [List.forall_mem_cons, ← ih, List.forall₂_cons_left_iff]
    constructor
    · intro h
      rcases h with ⟨_, y, ys, hy, hys, rfl⟩
      exact ⟨⟨y, hy⟩, ys, hys⟩
    · intro h
      rcases h with ⟨⟨y, hy⟩, ys, hys⟩
      exact ⟨y :: ys, y, ys, hy, hys, rfl⟩

namespace RuleSet

theorem readList_node_isOk_iff :
    (∃ rules, readList Rule.read n = .ok rules) ↔
      (∃ items, n = .array items) ∧ ∀ rule ∈ n.items, ∃ r, Rule.read rule = .ok r := by
  simp only [readList_eq_ok_iff, Node.view_eq_array_iff]
  constructor
  · intro h
    rcases h with ⟨rules, items, rfl, hrules⟩
    exact ⟨⟨items, rfl⟩, exists_forall₂_iff.mp ⟨rules, hrules⟩⟩
  · intro h
    rcases h with ⟨⟨items, rfl⟩, hall⟩
    obtain ⟨rules, hrules⟩ := exists_forall₂_iff.mpr hall
    exact ⟨rules, items, rfl, hrules⟩

/-- An object is read as a rule set if rules and settings are each written once at most, the rules are a
list, and each rule and the settings can be read. -/
theorem read_node_isOk_iff {entries : List (List Component × Node)} (hn : n = .object entries)
    (h : n.toJson = .ok j) :
    (∃ s, RuleSet.read n = .ok s) ↔
      ((n.values "rules").length ≤ 1 ∧ (n.values "settings").length ≤ 1) ∧
        (∀ v ∈ n.values "rules", ∃ items, v = .array items) ∧
        (∀ rule ∈ n.ruleNodes, ∃ r, Rule.read rule = .ok r) ∧
        ∀ v ∈ n.values "settings", ∃ b, readSettings v = .ok b := by
  have hread : (∃ s, RuleSet.read n = .ok s) ↔
      ((n.values "rules").length ≤ 1 ∧
          ∀ v ∈ n.values "rules", ∃ rules, readList Rule.read v = .ok rules) ∧
        (n.values "settings").length ≤ 1 ∧
        ∀ v ∈ n.values "settings", ∃ b, readSettings v = .ok b := by
    subst hn
    rw [RuleSet.read_object_isOk_iff rfl]
    exact and_iff_right (Node.passes_of_toJson h)
  rw [hread]
  simp only [readList_node_isOk_iff, Node.ruleNodes, List.mem_flatMap]
  constructor
  · intro h'
    rcases h' with ⟨⟨hrules, hlist⟩, hsettings, hread⟩
    refine ⟨⟨hrules, hsettings⟩, fun v hv => (hlist v hv).1, ?_, hread⟩
    rintro rule ⟨v, hv, hrule⟩
    exact (hlist v hv).2 rule hrule
  · intro h'
    rcases h' with ⟨⟨hrules, hsettings⟩, hlist, hall, hread⟩
    exact ⟨⟨hrules, fun v hv => ⟨hlist v hv, fun rule hrule => hall rule ⟨v, hv, hrule⟩⟩⟩, hsettings,
      hread⟩

/-- As many rules are read as the list of rules is long. -/
theorem length_rules_of_read {entries : List (List Component × Node)} (hn : n = .object entries)
    (h : n.toJson = .ok j) {s : RuleSet} (hs : RuleSet.read n = .ok s) :
    s.rules.length = (rulesOf j).length := by
  have hlen := ((read_node_isOk_iff hn h).mp ⟨s, hs⟩).1.1
  have hmap := congrArg List.length (Node.map_ruleNodes h hlen)
  rw [List.length_map, List.length_map] at hmap
  rw [← hmap, Node.ruleNodes]
  subst hn
  obtain ⟨hnone, hsome⟩ := rules_of_read_object rfl hs
  obtain hv | ⟨v, hv⟩ := eq_nil_or_singleton hlen
  · rw [hv, hnone hv]
    rfl
  · have hmem : v ∈ (Node.object entries).values "rules" := by
      rw [hv]
      exact List.mem_singleton_self v
    obtain ⟨items, hitems, hrules⟩ := readList_eq_ok_iff.mp (hsome v hmem)
    rw [hv, List.flatMap_singleton, Node.view_eq_array_iff.mp hitems]
    exact hrules.length_eq.symm

end RuleSet

end ReceiptRules

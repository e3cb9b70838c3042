import ReceiptRules.Proofs.RuleFile.Complaints
import ReceiptRules.Proofs.RuleFile.Trees

/-!
# Verifying and loading

A rule file is loaded from the tree of its text, and verified on its value. The two agree on files that
are plain: objects with a list of objects as rules, in which no key is written twice. There a file loads
if all that is complained about are names and categories that are null (`loads_iff_tolerated`). Other
files can be verified without a complaint and still not load; those that do are the regular ones
(`verified_loads_iff_regular`).
-/

namespace ReceiptRules

open Json5 RuleFile

variable {n : Node} {file : Json}

/-! ## Plain files -/

namespace Json5.Node

/-- No key of the object is written twice. -/
def KeysOnce : Node → Prop
  | object entries => (entries.map fun e => decodeString e.1).Nodup
  | _ => True

/-- An object with a list of objects as rules and an object as settings, of which both may be missing,
and without keys that are written twice. -/
structure PlainFile (n : Node) : Prop where
  object : ∃ entries, n = .object entries
  once : n.KeysOnce
  rules : ∀ v ∈ n.values "rules", ∃ items, v = .array items ∧
    ∀ rule ∈ items, (∃ entries, rule = .object entries) ∧ rule.KeysOnce
  settings : ∀ v ∈ n.values "settings", (∃ entries, v = .object entries) ∧ v.KeysOnce

theorem KeysOnce.values_length (h : n.KeysOnce) (key : String) : (n.values key).length ≤ 1 := by
  cases n with
  | object entries =>
    refine length_valuesUnder_le_one ?_
    rw [List.map_map]
    exact h
  | _ => simp [values]

theorem KeysOnce.regularRule (h : n.KeysOnce) : n.RegularRule :=
  ⟨h.values_length _, h.values_length _, h.values_length _⟩

theorem PlainFile.rule (h : n.PlainFile) {rule : Node} (hrule : rule ∈ n.ruleNodes) :
    (∃ entries, rule = .object entries) ∧ rule.KeysOnce := by
  obtain ⟨v, hv, hmem⟩ := List.mem_flatMap.mp hrule
  obtain ⟨items, rfl, hall⟩ := h.rules v hv
  exact hall rule hmem

end Json5.Node

namespace RuleFile

/-- Complaints in spite of which a plain file may load: about names that are there, and about a category
that is written as null. A category that is written as a number counts as null in the value of the file
if it is infinite or no number; such a file does not load. -/
def Tolerated (n : Node) : Complaint → Prop
  | .emptyName _ => True
  | .duplicateName _ _ => True
  | .badCategory i => ∃ rule, n.ruleNodes[i]? = some rule ∧ .null ∈ rule.values "category"
  | _ => False

theorem strict_tolerated : Strict (Tolerated n) := by
  constructor <;> simp [Tolerated]

theorem forall_nameComplaint_tolerated_iff {i : ℕ} {before : List String} {rule : Json} :
    (∀ c ∈ nameComplaint i before rule, Tolerated n c) ↔ ∃ s, nameOf? rule = some s := by
  refine ⟨exists_name_of_forall strict_tolerated, ?_⟩
  rintro ⟨s, hs⟩ c hc
  simp only [nameComplaint, hs] at hc
  split_ifs at hc <;> simp at hc <;> subst hc <;> trivial

/-- A rule of a plain file is read if all complaints about it are tolerated. -/
theorem read_rule_iff_tolerated (hplain : n.PlainFile) {i : ℕ} {before : List String} {rule : Node}
    {w : Json} (hi : n.ruleNodes[i]? = some rule) (hw : rule.toJson = .ok w) :
    (∃ r, Rule.read rule = .ok r) ↔
      (∀ c ∈ nameComplaint i before w, Tolerated n c) ∧ (∀ c ∈ conditionComplaint i w, Tolerated n c) ∧
        ∀ c ∈ categoryComplaint i w, Tolerated n c := by
  obtain ⟨⟨entries, hentries⟩, honce⟩ := hplain.rule (List.mem_of_getElem? hi)
  rw [Rule.read_node_isOk_iff hentries hw, forall_nameComplaint_tolerated_iff,
    forall_conditionComplaint_iff strict_tolerated, forall_categoryComplaint_iff]
  simp only [Tolerated, hi, Option.some.injEq, exists_eq_left']
  exact and_iff_right honce.regularRule

/-- A plain file is loaded if all complaints about it are tolerated. -/
theorem read_iff_tolerated (hplain : n.PlainFile) (h : n.toJson = .ok file) :
    (∃ s, RuleSet.read n = .ok s) ↔ ∀ c ∈ complaints file, Tolerated n c := by
  obtain ⟨entries, hentries⟩ := hplain.object
  have honce := hplain.once.values_length "rules"
  have hlist : ∀ v ∈ n.values "rules", ∃ items, v = .array items := fun v hv =>
    (hplain.rules v hv).imp fun items h => h.1
  have hlist' : ∀ w, file.get? "rules" = some w → ∃ js, w = .array js :=
    (Node.forall_values_iff h honce fun v _ w hw => Node.isArray_iff hw).mp hlist
  have hrules : (∀ rule ∈ n.ruleNodes, ∃ r, Rule.read rule = .ok r) ↔
      ∀ i w, (rulesOf file)[i]? = some w →
        (∀ c ∈ nameComplaint i (namesBefore (rulesOf file) i) w, Tolerated n c) ∧
          (∀ c ∈ conditionComplaint i w, Tolerated n c) ∧
          ∀ c ∈ categoryComplaint i w, Tolerated n c := by
    constructor
    · intro hall i w hi
      obtain ⟨rule, hrule, hw⟩ := Node.exists_of_getElem?_rulesOf h honce hi
      exact (read_rule_iff_tolerated hplain hrule hw).mp (hall rule (List.mem_of_getElem? hrule))
    · intro hall rule hrule
      obtain ⟨i, hi⟩ := List.mem_iff_getElem?.mp hrule
      obtain ⟨w, hw, hvalue⟩ := Node.exists_of_getElem?_ruleNodes h honce hi
      exact (read_rule_iff_tolerated hplain hi hvalue).mpr (hall i w hw)
  have hsettings : (∀ v ∈ n.values "settings", ∃ b, RuleSet.readSettings v = .ok b) ↔
      ∀ w, file.get? "settings" = some w → ∃ b, RuleSet.readSettings w = .ok b := by
    refine Node.forall_values_iff h (hplain.once.values_length _) fun v hv w hw => ?_
    obtain ⟨⟨es, hes⟩, hkeys⟩ := hplain.settings v hv
    rw [readSettings_object_node_iff hes hw]
    exact and_iff_right (hkeys.values_length _)
  rw [RuleSet.read_node_isOk_iff hentries h, forall_complaints_iff,
    forall_listComplaint_iff strict_tolerated, forall_settingsComplaint_iff strict_tolerated, hrules,
    hsettings]
  rw [and_iff_right ⟨honce, hplain.once.values_length "settings"⟩, and_iff_right hlist,
    and_iff_right hlist']

end RuleFile

/-! ## Files without complaints -/

namespace Json5.Node

/-- An object in which nothing is written twice of what may be there once: rules, settings, the fields of
each rule and of the settings. -/
structure RegularObject (n : Node) : Prop where
  rules : (n.values "rules").length ≤ 1
  settings : (n.values "settings").length ≤ 1
  rule : ∀ rule ∈ n.ruleNodes, rule.RegularRule
  firstMatch : ∀ v ∈ n.values "settings", (v.values "firstMatch").length ≤ 1

/-- A list that stands for a rule set without rules. Verification does not look into such a list, so that
any rules in it would be unseen. -/
structure RegularList (items : List Node) : Prop where
  rules : ∀ v ∈ items.head?, v = .array []
  settings : ∀ v ∈ items[1]?, v.IsSettings

/-- What a file must be to load after verification had no complaint. -/
def Regular : Node → Prop
  | object entries => (object entries).RegularObject
  | array items => RegularList items
  | _ => False

end Json5.Node

namespace RuleFile

theorem strict_false : Strict fun _ => False := by
  constructor <;> simp

/-- A value with a name is that of an object. -/
theorem object_of_name {rule : Node} {w : Json} {s : String} (hw : rule.toJson = .ok w)
    (hs : nameOf? w = some s) : ∃ entries, rule = .object entries := by
  have hget := nameOf?_eq_some_iff.mp hs
  cases rule with
  | object entries => exact ⟨entries, rfl⟩
  | _ =>
    rw [(Node.get?_eq_none_iff hw).mpr rfl] at hget
    cases hget

theorem read_rule_iff_regular (h : n.toJson = .ok file) (hclean : ∀ c ∈ complaints file, False)
    (hlen : (n.values "rules").length ≤ 1) {rule : Node} (hrule : rule ∈ n.ruleNodes) :
    (∃ r, Rule.read rule = .ok r) ↔ rule.RegularRule := by
  obtain ⟨i, hi⟩ := List.mem_iff_getElem?.mp hrule
  obtain ⟨w, hw, hvalue⟩ := Node.exists_of_getElem?_ruleNodes h hlen hi
  obtain ⟨hname, hcondition, hcategory⟩ := (forall_complaints_iff.mp hclean).2.1 i w hw
  obtain ⟨s, hs⟩ := exists_name_of_forall strict_false hname
  obtain ⟨entries, hentries⟩ := object_of_name hvalue hs
  rw [Rule.read_node_isOk_iff hentries hvalue]
  refine and_iff_left ⟨⟨s, hs⟩, (forall_conditionComplaint_iff strict_false).mp hcondition, ?_⟩
  intro u hu
  exact (forall_categoryComplaint_iff.mp hcategory u hu).imp id False.elim

theorem read_settings_iff_regular (h : n.toJson = .ok file) (hclean : ∀ c ∈ complaints file, False)
    (hlen : (n.values "settings").length ≤ 1) :
    (∀ v ∈ n.values "settings", ∃ b, RuleSet.readSettings v = .ok b) ↔
      ∀ v ∈ n.values "settings", (v.values "firstMatch").length ≤ 1 := by
  have hsettings := (forall_settingsComplaint_iff strict_false).mp
    (forall_complaints_iff.mp hclean).2.2
  obtain hv | ⟨v, hv⟩ := eq_nil_or_singleton hlen
  · simp [hv]
  · obtain ⟨w, hw, hget⟩ := Node.get?_of_values h hv
    simp only [hv, List.mem_singleton, forall_eq]
    exact readSettings_node_iff hw (hsettings w hget)

theorem read_object_iff_regular {entries : List (List Component × Node)} (hn : n = .object entries)
    (h : n.toJson = .ok file) (hclean : ∀ c ∈ complaints file, False) :
    (∃ s, RuleSet.read n = .ok s) ↔ n.RegularObject := by
  have hlist := (forall_listComplaint_iff strict_false).mp (forall_complaints_iff.mp hclean).1
  rw [RuleSet.read_node_isOk_iff hn h]
  constructor
  · intro h'
    rcases h' with ⟨⟨hrules, hsettings⟩, -, hread, hfirst⟩
    refine ⟨hrules, hsettings, fun rule hrule => ?_, ?_⟩
    · exact (read_rule_iff_regular h hclean hrules hrule).mp (hread rule hrule)
    · exact (read_settings_iff_regular h hclean hsettings).mp hfirst
  · intro h'
    rcases h' with ⟨hrules, hsettings, hrule, hfirst⟩
    refine ⟨⟨hrules, hsettings⟩, ?_, fun rule hmem => ?_, ?_⟩
    · exact (Node.forall_values_iff h hrules fun v _ w hw => Node.isArray_iff hw).mpr hlist
    · exact (read_rule_iff_regular h hclean hrules hmem).mpr (hrule rule hmem)
    · exact (read_settings_iff_regular h hclean hsettings).mpr hfirst

theorem readList_eq_nil_iff {v : Node} :
    Document.readList Rule.read v = .ok [] ↔ v = .array [] := by
  rw [readList_eq_ok_iff]
  constructor
  · intro h
    rcases h with ⟨items, hv, hnil⟩
    rw [Node.view_eq_array_iff.mp hv, List.forall₂_nil_right_iff.mp hnil]
  · rintro rfl
    exact ⟨[], rfl, .nil⟩

/-- A list is a file without rules for verification, and is loaded as one only if it is regular. -/
theorem read_list_iff_regular {items : List Node} (h : (Node.array items).toJson = .ok file) :
    (∃ s, RuleSet.read (Node.array items) = .ok s ∧ s.rules = []) ↔ Node.RegularList items := by
  have hsettings : (∀ v ∈ items[1]?, ∃ b, RuleSet.readSettings v = .ok b) ↔
      ∀ v ∈ items[1]?, v.IsSettings := by
    obtain ⟨js, hjs, -⟩ := map_eq_ok.mp h
    refine forall₂_congr fun v hv => ?_
    have hvalue := congrArg (·[1]?) (Node.map_toJson_of_items hjs)
    simp only [List.getElem?_map, Option.mem_def.mp hv, Option.map_some] at hvalue
    obtain ⟨w, -, hw⟩ := Option.map_eq_some_iff.mp hvalue.symm
    exact readSettings_isOk_iff hw.symm
  have hrules : (∀ v ∈ items.head?, Document.readList Rule.read v = .ok []) ↔
      ∀ v ∈ items.head?, v = .array [] := forall₂_congr fun v _ => readList_eq_nil_iff
  rw [RuleSet.read_array_eq_ok_iff rfl rfl, hsettings, hrules]
  exact ⟨fun h => ⟨h.2.1, h.2.2⟩, fun h => ⟨fun _ => rfl, h.rules, h.settings⟩⟩

/-- Without complaints, a file is loaded with all its rules if it is regular. -/
theorem read_iff_regular (h : n.toJson = .ok file) (hclean : ∀ c ∈ complaints file, False) :
    (∃ s, RuleSet.read n = .ok s ∧ s.rules.length = (rulesOf file).length) ↔ n.Regular := by
  cases hn : n with
  | object entries =>
    subst hn
    rw [Node.Regular, ← read_object_iff_regular rfl h hclean]
    constructor
    · exact fun ⟨s, hs, _⟩ => ⟨s, hs⟩
    · exact fun ⟨s, hs⟩ => ⟨s, hs, RuleSet.length_rules_of_read rfl h hs⟩
  | array items =>
    subst hn
    obtain ⟨js, hjs, rfl⟩ := map_eq_ok.mp h
    rw [Node.Regular, ← read_list_iff_regular h]
    simp [rulesOf, Json.get?]
  | _ =>
    refine iff_of_false ?_ id
    intro h'
    rcases h' with ⟨s, hs, -⟩
    rcases Node.object_or_array_of_read hs with ⟨_, hn⟩ | ⟨_, hn⟩ <;> cases hn

/-! ## Texts -/

variable {text : String}

theorem ofText_eq_ok_iff {s : RuleSet} :
    RuleSet.ofText text = .ok s ↔
      ∃ node, Node.ofText? text = some node ∧ RuleSet.read node = .ok s := by
  cases h : Node.ofText? text with
  | none => simp [RuleSet.ofText, h]
  | some node => simp [RuleSet.ofText, h]

theorem valueOfText_eq_ok_iff :
    valueOfText text = .ok file ↔ ∃ node, Node.ofText? text = some node ∧ node.toJson = .ok file := by
  cases h : Node.ofText? text with
  | none => simp [valueOfText, h]
  | some node => simp [valueOfText, h]

/-- A plain rule file loads if nothing is complained about but names that are there and categories that
are null. -/
theorem loads_iff_tolerated (hvalue : valueOfText text = .ok file)
    (hnode : Node.ofText? text = some n) (hplain : n.PlainFile) :
    ∃ cs, verify text = .ok cs ∧
      ((∃ s, RuleSet.ofText text = .ok s) ↔ ∀ c ∈ cs, Tolerated n c) := by
  obtain ⟨node, hnode', htoJson⟩ := valueOfText_eq_ok_iff.mp hvalue
  obtain rfl : n = node := Option.some.inj (hnode.symm.trans hnode')
  refine ⟨complaints file, map_eq_ok.mpr ⟨file, hvalue, rfl⟩, ?_⟩
  rw [← read_iff_tolerated hplain htoJson]
  simp only [ofText_eq_ok_iff, hnode, Option.some.injEq, exists_eq_left']

/-- A word that is written without escapes. -/
def word (s : String) : List Component := s.toList.map .literal

theorem decodeString_word (s : String) : decodeString (word s) = .ok s := by
  have hdecode : ∀ cs : List Char, decode (cs.map .literal) = .ok cs := by
    intro cs
    induction cs with
    | nil => rfl
    | cons c cs ih =>
      rw [List.map_cons, decode, ih]
      rfl
  rw [decodeString, word, hdecode]
  simp [Except.map]

/-- A file with a rule that has no name and null for a category. -/
def namelessFile : String := "\x7brules: [\x7bname: '', when: \x7b$or: []\x7d, category: null\x7d]\x7d"

def namelessNode : Node :=
  .object [(word "rules", .array [.object [(word "name", .string []),
    (word "when", .object [(word "$or", .array [])]), (word "category", .null)]])]

def namelessValue : Json :=
  .object [("rules", .array [.object [("category", .null), ("name", .string ""),
    ("when", .object [("$or", .array [])])]])]

theorem ofText?_namelessFile : Node.ofText? namelessFile = some namelessNode := by
  have htokens : tokenize? namelessFile.toList = some [.openBrace, .name (word "rules"), .colon,
      .openBracket, .openBrace, .name (word "name"), .colon, .string [], .comma, .name (word "when"),
      .colon, .openBrace, .name (word "$or"), .colon, .openBracket, .closeBracket, .closeBrace, .comma,
      .name (word "category"), .colon, .name (word "null"), .closeBrace, .closeBracket,
      .closeBrace] := by decide +kernel
  rw [Node.ofText?, htokens]
  rfl

theorem valueOfText_namelessFile : valueOfText namelessFile = .ok namelessValue :=
  valueOfText_eq_ok_iff.mpr ⟨namelessNode, ofText?_namelessFile, rfl⟩

theorem plainFile_namelessNode : namelessNode.PlainFile where
  object := ⟨_, rfl⟩
  once := by simp [namelessNode, Node.KeysOnce]
  rules := by
    intro v hv
    have hvalues : namelessNode.values "rules" = [_] := rfl
    rw [hvalues, List.mem_singleton] at hv
    refine ⟨_, hv, ?_⟩
    intro rule hrule
    obtain rfl := List.mem_singleton.mp hrule
    exact ⟨⟨_, rfl⟩, by simp [Node.KeysOnce, decodeString_word]⟩
  settings := by
    have hvalues : namelessNode.values "settings" = [] := rfl
    simp [hvalues]

theorem loads_iff_tolerated_nameless :
    valueOfText namelessFile = .ok namelessValue ∧ Node.ofText? namelessFile = some namelessNode ∧
      namelessNode.PlainFile ∧ ∃ cs, verify namelessFile = .ok cs ∧
        ((∃ s, RuleSet.ofText namelessFile = .ok s) ↔ ∀ c ∈ cs, Tolerated namelessNode c) :=
  ⟨valueOfText_namelessFile, ofText?_namelessFile, plainFile_namelessNode,
    loads_iff_tolerated valueOfText_namelessFile ofText?_namelessFile plainFile_namelessNode⟩

/-- A rule file that is verified without a complaint is loaded, with all the rules that were verified,
exactly if it is regular. -/
theorem verified_loads_iff_regular (h : verify text = .ok []) :
    (∃ file s, valueOfText text = .ok file ∧ RuleSet.ofText text = .ok s ∧
        s.rules.length = (rulesOf file).length) ↔
      ∃ node, Node.ofText? text = some node ∧ node.Regular := by
  obtain ⟨file, hvalue, hcomplaints⟩ := map_eq_ok.mp h
  obtain ⟨node, hnode, htoJson⟩ := valueOfText_eq_ok_iff.mp hvalue
  have hclean : ∀ c ∈ complaints file, False := by
    simp [hcomplaints]
  have hregular := read_iff_regular htoJson hclean
  simp only [hnode, Option.some.injEq, exists_eq_left', ← hregular]
  constructor
  · intro h'
    rcases h' with ⟨file', s, hfile, hs, hlength⟩
    obtain rfl : file = file' := Except.ok.inj (hvalue.symm.trans hfile)
    obtain ⟨node', hnode', hread⟩ := ofText_eq_ok_iff.mp hs
    obtain rfl : node = node' := Option.some.inj (hnode.symm.trans hnode')
    exact ⟨s, hread, hlength⟩
  · intro h'
    rcases h' with ⟨s, hread, hlength⟩
    exact ⟨file, s, hvalue, ofText_eq_ok_iff.mpr ⟨node, hnode, hread⟩, hlength⟩

/-- A file with a rule, and with its settings as a list. -/
def listedFile : String := "\x7brules: [\x7bname: 'a', when: \x7b$or: []\x7d\x7d], settings: [true]\x7d"

def listedNode : Node :=
  .object [(word "rules", .array [.object [(word "name", .string (word "a")),
    (word "when", .object [(word "$or", .array [])])]]), (word "settings", .array [.bool true])]

theorem ofText?_listedFile : Node.ofText? listedFile = some listedNode := by
  have htokens : tokenize? listedFile.toList = some [.openBrace, .name (word "rules"), .colon,
      .openBracket, .openBrace, .name (word "name"), .colon, .string (word "a"), .comma,
      .name (word "when"), .colon, .openBrace, .name (word "$or"), .colon, .openBracket, .closeBracket,
      .closeBrace, .closeBrace, .closeBracket, .comma, .name (word "settings"), .colon, .openBracket,
      .name (word "true"), .closeBracket, .closeBrace] := by decide +kernel
  rw [Node.ofText?, htokens]
  rfl

theorem verify_listedFile : verify listedFile = .ok [] := by
  rw [verify, valueOfText, ofText?_listedFile]
  rfl

theorem regular_listedNode : listedNode.Regular where
  rules := by decide
  settings := by decide
  rule := by
    intro rule hrule
    have hnodes : listedNode.ruleNodes = [_] := rfl
    obtain rfl := List.mem_singleton.mp (hnodes ▸ hrule)
    exact ⟨by decide, by decide, by decide⟩
  firstMatch := by
    intro v hv
    have hvalues : listedNode.values "settings" = [_] := rfl
    obtain rfl := List.mem_singleton.mp (hvalues ▸ hv)
    decide

theorem listedFile_loads :
    verify listedFile = .ok [] ∧
      ∃ file s, valueOfText listedFile = .ok file ∧ RuleSet.ofText listedFile = .ok s ∧
        s.rules.length = (rulesOf file).length :=
  ⟨verify_listedFile, (verified_loads_iff_regular verify_listedFile).mpr
    ⟨listedNode, ofText?_listedFile, regular_listedNode⟩⟩

/-- A truth value is no rule file, but nothing is complained about. -/
theorem verified_without_loading :
    verify "true" = .ok [] ∧ ¬ ∃ s, RuleSet.ofText "true" = .ok s := by
  refine ⟨rfl, ?_⟩
  intro h
  rcases h with ⟨s, hs⟩
  cases hs

end RuleFile

end ReceiptRules

import ReceiptRules.Proofs.Condition.FirstFault
import ReceiptRules.Proofs.RuleFile.Agreement

/-!
# What a report on a rule file is made of

Verifying a rule file goes through its rules in their order and reports at most one complaint about the
name of each rule, one about its condition and one about its category, and at the end at most one about
the settings (`verify_eq_reports`). A name is reported as a duplicate if an earlier rule has it, too. No
two complaints have the same message.
-/

namespace ReceiptRules.RuleFile

variable {c c' : Complaint} {i j : ℕ} {rule : Json} {rules : List Json} {before : List String}

/-! ## Names of earlier rules -/

theorem mem_namesBefore_iff {name : String} :
    name ∈ namesBefore rules i ↔ ∃ j < i, rules[j]?.bind nameOf? = some name := by
  simp only [namesBefore, List.mem_reverse, List.mem_filterMap, List.mem_take_iff_getElem,
    Option.bind_eq_some_iff]
  constructor
  · rintro ⟨rule, ⟨j, hj, rfl⟩, hname⟩
    have hlt := lt_min_iff.mp hj
    exact ⟨j, hlt.1, _, List.getElem?_eq_getElem hlt.2, hname⟩
  · rintro ⟨j, hj, rule, hrule, hname⟩
    obtain ⟨hlt, rfl⟩ := List.getElem?_eq_some_iff.mp hrule
    exact ⟨_, ⟨j, lt_min hj hlt, rfl⟩, hname⟩

/-! ## The report on a rule -/

/-- The complaints about one rule: at most one about each of its name, its condition and its category. -/
structure RuleReport where
  name : Option Complaint
  condition : Option Complaint
  category : Option Complaint

/-- The complaints of a report, in their order. -/
def RuleReport.complaints (p : RuleReport) : List Complaint :=
  p.name.toList ++ p.condition.toList ++ p.category.toList

/-- What a report says of the rule at an index: nothing but what is the case, and all that is. -/
structure Reports (rules : List Json) (i : ℕ) (rule : Json) (p : RuleReport) : Prop where
  name : ∀ c, p.name = some c ↔
    (c = .missingName i ∧ nameOf? rule = none) ∨ (c = .emptyName i ∧ nameOf? rule = some "") ∨
      ∃ s ≠ "", c = .duplicateName i s ∧ nameOf? rule = some s ∧
        ∃ j < i, rules[j]?.bind nameOf? = some s
  condition : ∀ c, p.condition = some c ↔
    (c = .missingCondition i ∧ rule.get? "when" = none) ∨
      ∃ spec e, c = .badCondition i e ∧ rule.get? "when" = some spec ∧ Condition.ofSpec spec = .error e
  category : ∀ c, p.category = some c ↔
    c = .badCategory i ∧ ∃ v, rule.get? "category" = some v ∧ ∀ s, v ≠ .string s

/-- The report on a rule, given the names of the rules before it. -/
def reportOf (index : ℕ) (before : List String) (rule : Json) : RuleReport where
  name := (nameComplaint index before rule).head?
  condition := (conditionComplaint index rule).head?
  category := (categoryComplaint index rule).head?

theorem nameComplaint_eq_toList :
    nameComplaint i before rule = (reportOf i before rule).name.toList := by
  rw [reportOf, nameComplaint]
  split
  · rfl
  · split_ifs <;> rfl

theorem conditionComplaint_eq_toList (before : List String) :
    conditionComplaint i rule = (reportOf i before rule).condition.toList := by
  rw [reportOf, conditionComplaint]
  split
  · rfl
  · split <;> rfl

theorem categoryComplaint_eq_toList (before : List String) :
    categoryComplaint i rule = (reportOf i before rule).category.toList := by
  rw [reportOf, categoryComplaint]
  split <;> rfl

theorem complaintsOf_eq_complaints :
    complaintsOf i before rule = (reportOf i before rule).complaints := by
  rw [complaintsOf, RuleReport.complaints, nameComplaint_eq_toList,
    conditionComplaint_eq_toList before, categoryComplaint_eq_toList before]

theorem name_reportOf_iff :
    (reportOf i before rule).name = some c ↔
      (c = .missingName i ∧ nameOf? rule = none) ∨ (c = .emptyName i ∧ nameOf? rule = some "") ∨
        ∃ s ≠ "", c = .duplicateName i s ∧ nameOf? rule = some s ∧ s ∈ before := by
  rw [reportOf, nameComplaint]
  cases hname : nameOf? rule with
  | none => simp [eq_comm]
  | some s =>
    by_cases hempty : s = ""
    · simp [hempty, eq_comm]
    · by_cases hbefore : s ∈ before
      · simp [hempty, hbefore, eq_comm]
      · simp [hempty, hbefore]

theorem condition_reportOf_iff :
    (reportOf i before rule).condition = some c ↔
      (c = .missingCondition i ∧ rule.get? "when" = none) ∨
        ∃ spec e, c = .badCondition i e ∧ rule.get? "when" = some spec ∧
          Condition.ofSpec spec = .error e := by
  rw [reportOf, conditionComplaint]
  cases hwhen : rule.get? "when" with
  | none => simp [eq_comm]
  | some spec =>
    cases hspec : Condition.ofSpec spec with
    | ok d => simp [hspec]
    | error e => simp [hspec, eq_comm]

theorem category_reportOf_iff :
    (reportOf i before rule).category = some c ↔
      c = .badCategory i ∧ ∃ v, rule.get? "category" = some v ∧ ∀ s, v ≠ .string s := by
  rw [reportOf, categoryComplaint]
  cases hcategory : rule.get? "category" with
  | none => simp
  | some v => cases v <;> simp [eq_comm]

theorem reports_reportOf : Reports rules i rule (reportOf i (namesBefore rules i) rule) where
  name c := by simp only [name_reportOf_iff, mem_namesBefore_iff]
  condition _ := condition_reportOf_iff
  category _ := category_reportOf_iff

/-- The complaints about rules are those of the reports on them, one after the other. -/
theorem ruleComplaints_eq_flatMap (rules : List Json) (index : ℕ) (before : List String) :
    ruleComplaints index before rules =
      (rules.mapIdx fun i rule => reportOf (index + i) (namesBefore rules i ++ before) rule).flatMap
        RuleReport.complaints := by
  induction rules generalizing index before with
  | nil => rfl
  | cons rule rules ih =>
    have hstep : ∀ i, index + 1 + i = index + (i + 1) := by
      intro i
      omega
    have hnames : ∀ i, namesBefore (rule :: rules) (i + 1) ++ before =
        namesBefore rules i ++ ((nameOf? rule).toList ++ before) := by
      intro i
      rw [namesBefore_cons, List.append_assoc]
    rw [ruleComplaints, ih, List.mapIdx_cons, List.flatMap_cons, ← complaintsOf_eq_complaints]
    simp only [hstep, hnames]
    rfl

/-! ## Messages -/

namespace Complaint

/-- The place of a rule can be told from a message that starts with it. -/
theorem rulePlace_append_inj {t u : String} (h : rulePlace i ++ t = rulePlace j ++ u) : i = j ∧ t = u := by
  have hplace : ∀ (k : ℕ) (v : String), (rulePlace k ++ v).toList =
      ("rules[".toList ++ Nat.toDigits 10 k) ++ ']' :: v.toList := by
    intro k v
    simp [rulePlace]
  have hmark : ∀ k, ']' ∉ "rules[".toList ++ Nat.toDigits 10 k := by
    intro k
    simp [Step.notMem_toDigits]
  have hpieces := congrArg (fun v : String => Text.pieces ']' v.toList) h
  simp only [hplace, Text.pieces_append_cons (hmark _)] at hpieces
  have hdigits := List.append_cancel_left (List.cons.inj hpieces).1
  have hindex := congrArg (Nat.ofDigitChars 10 · 0) hdigits
  simp only [Nat.ofDigitChars_ten_toDigits] at hindex
  subst hindex
  exact ⟨rfl, (String.append_right_inj _).mp h⟩

/-- The rule that a complaint is about, and what its message says after the place of the rule. -/
def about? : Complaint → Option (ℕ × String)
  | emptyName i => some (i, ": 'name' must not be empty")
  | duplicateName i name => some (i, ": duplicate rule name '" ++ name ++ "'")
  | missingName i => some (i, ": missing 'name'")
  | badCondition i e =>
    some (i, ".when" ++ (if e.place.isEmpty then "" else "." ++ placeText e.place) ++ ": " ++
      e.fault.message)
  | missingCondition i => some (i, ": missing 'when'")
  | badCategory i => some (i, ": 'category' must be a string")
  | rulesNotList | badSettings _ => none

theorem message_of_about? {t : String} (h : c.about? = some (i, t)) : c.message = rulePlace i ++ t := by
  cases c <;> cases h <;> simp [message, String.append_assoc]

theorem message_ne_of_about? {t u : String} (h : c.about? = some (i, t)) (h' : c'.about? = some (j, u))
    (hne : i = j → t ≠ u) : c.message ≠ c'.message := by
  rw [message_of_about? h, message_of_about? h']
  intro heq
  obtain ⟨hindex, htext⟩ := rulePlace_append_inj heq
  exact hne hindex htext

theorem message_ne_badSettings {t : String} (h : c.about? = some (i, t)) (e : ReadError) :
    c.message ≠ (badSettings e).message := by
  rw [message_of_about? h]
  intro heq
  simpa [rulePlace, message] using congrArg (fun u : String => u.toList.head?) heq

end Complaint

theorem Reports.exists_about? {p : RuleReport} (h : Reports rules i rule p) (hc : c ∈ p.complaints) :
    ∃ t, c.about? = some (i, t) := by
  simp only [RuleReport.complaints, List.mem_append, Option.mem_toList, h.name, h.condition,
    h.category] at hc
  rcases hc with ((⟨rfl, -⟩ | ⟨rfl, -⟩ | ⟨s, -, rfl, -⟩) | ⟨rfl, -⟩ | ⟨spec, e, rfl, -⟩) | ⟨rfl, -⟩ <;>
    exact ⟨_, rfl⟩

theorem Reports.message_ne {p : RuleReport} (h : Reports rules i rule p) :
    p.complaints.Pairwise fun c c' => c.message ≠ c'.message := by
  simp only [RuleReport.complaints, List.pairwise_append, List.mem_append, Option.mem_toList,
    h.name, h.condition, h.category]
  have hsingle : ∀ o : Option Complaint, o.toList.Pairwise fun c c' => c.message ≠ c'.message := by
    intro o
    cases o <;> simp
  -- the first twelve characters after the place tell a name from a condition and these from a category
  refine ⟨⟨hsingle _, hsingle _, ?_⟩, hsingle _, ?_⟩
  · rintro c (⟨rfl, -⟩ | ⟨rfl, -⟩ | ⟨s, -, rfl, -⟩) c' (⟨rfl, -⟩ | ⟨spec, e, rfl, -⟩) <;>
      refine Complaint.message_ne_of_about? rfl rfl fun _ heq => ?_ <;>
      simpa using congrArg (fun t : String => t.toList.take 12) heq
  · rintro c ((⟨rfl, -⟩ | ⟨rfl, -⟩ | ⟨s, -, rfl, -⟩) | ⟨rfl, -⟩ | ⟨spec, e, rfl, -⟩) c' ⟨rfl, -⟩ <;>
      refine Complaint.message_ne_of_about? rfl rfl fun _ heq => ?_ <;>
      simpa using congrArg (fun t : String => t.toList.take 12) heq

/-- A message about the condition of a rule starts with the place of the condition, and goes on with the
place of the fault in it unless that is the whole condition. -/
theorem message_badCondition (i : ℕ) (e : SpecError) :
    (Complaint.badCondition i e).message =
      "rules[" ++ toString i ++ "].when" ++
        (if placeText e.place = "" then "" else "." ++ placeText e.place) ++ ": " ++ e.fault.message := by
  have hplace : e.place.isEmpty = true ↔ placeText e.place = "" := by
    cases hsteps : e.place with
    | nil => simp [placeText]
    | cons step place => simp [placeText_cons_ne_empty]
  simp only [Complaint.message, Complaint.rulePlace, hplace, String.append_assoc]
  rfl

/-- The reports on the rules of a file. -/
def reportsOf (rules : List Json) : List RuleReport :=
  rules.mapIdx fun i rule => reportOf i (namesBefore rules i) rule

theorem ruleComplaints_eq_reportsOf (rules : List Json) :
    ruleComplaints 0 [] rules = (reportsOf rules).flatMap RuleReport.complaints := by
  have h := ruleComplaints_eq_flatMap rules 0 []
  simp only [Nat.zero_add, List.append_nil] at h
  exact h

theorem reports_of_getElem? {p : RuleReport} (hrule : rules[i]? = some rule)
    (hreport : (reportsOf rules)[i]? = some p) : Reports rules i rule p := by
  rw [reportsOf, List.getElem?_mapIdx, hrule] at hreport
  cases hreport
  exact reports_reportOf

theorem exists_of_getElem?_reportsOf {p : RuleReport} (h : (reportsOf rules)[i]? = some p) :
    ∃ rule, Reports rules i rule p := by
  rw [reportsOf, List.getElem?_mapIdx, Option.map_eq_some_iff] at h
  obtain ⟨rule, -, rfl⟩ := h
  exact ⟨rule, reports_reportOf⟩

/-- Complaints about rules have different messages: of different rules by their places, and of one rule
by what they say. -/
theorem message_ne_reportsOf (rules : List Json) :
    ((reportsOf rules).flatMap RuleReport.complaints).Pairwise fun c c' => c.message ≠ c'.message := by
  refine List.pairwise_flatMap.mpr ⟨fun p hp => ?_, List.pairwise_iff_getElem.mpr ?_⟩
  · obtain ⟨i, hi⟩ := List.getElem?_of_mem hp
    obtain ⟨rule, hreports⟩ := exists_of_getElem?_reportsOf hi
    exact hreports.message_ne
  · intro i j hi hj hlt c hc c' hc'
    obtain ⟨rule, hreports⟩ := exists_of_getElem?_reportsOf (List.getElem?_eq_getElem hi)
    obtain ⟨rule', hreports'⟩ := exists_of_getElem?_reportsOf (List.getElem?_eq_getElem hj)
    obtain ⟨t, ht⟩ := hreports.exists_about? hc
    obtain ⟨u, hu⟩ := hreports'.exists_about? hc'
    exact Complaint.message_ne_of_about? ht hu fun heq => absurd heq hlt.ne

theorem settingsComplaint_eq_toList {file : Json} :
    settingsComplaint file = (settingsComplaint file).head?.toList := by
  rw [settingsComplaint]
  split
  · rfl
  · split <;> rfl

theorem head?_settingsComplaint_iff {file : Json} :
    (settingsComplaint file).head? = some c ↔ ∃ v e, c = .badSettings e ∧
      file.get? "settings" = some v ∧ RuleSet.readSettings v = .error e := by
  rw [settingsComplaint]
  cases hsettings : file.get? "settings" with
  | none => simp
  | some v =>
    cases hread : RuleSet.readSettings v with
    | ok b => simp [hread]
    | error e => simp [hread, eq_comm]

/-- The report on a file whose rules are a list: rule by rule at most one complaint about the name, the
condition and the category, then at most one about the settings, each exactly if there is reason for it,
and no message twice. -/
theorem verify_eq_reports {text : String} {file : Json} (hfile : Json5.valueOfText text = .ok file)
    (hrules : file.get? "rules" = some (.array rules)) :
    ∃ (reports : List RuleReport) (settings : Option Complaint),
      verify text = .ok (reports.flatMap RuleReport.complaints ++ settings.toList) ∧
        reports.length = rules.length ∧
        (∀ (i : ℕ) rule report, rules[i]? = some rule → reports[i]? = some report →
          Reports rules i rule report) ∧
        (∀ c, settings = some c ↔ ∃ v e, c = .badSettings e ∧ file.get? "settings" = some v ∧
          RuleSet.readSettings v = .error e) ∧
        ((reports.flatMap RuleReport.complaints ++ settings.toList).map Complaint.message).Nodup ∧
        ∀ i e, (Complaint.badCondition i e).message =
          "rules[" ++ toString i ++ "].when" ++
            (if placeText e.place = "" then "" else "." ++ placeText e.place) ++ ": " ++
              e.fault.message := by
  have hcomplaints : complaints file =
      (reportsOf rules).flatMap RuleReport.complaints ++ (settingsComplaint file).head?.toList := by
    have hlist : listComplaint file = [] := by rw [listComplaint, hrules]
    have hrulesOf : rulesOf file = rules := by rw [rulesOf, hrules]
    rw [complaints, hlist, hrulesOf, ruleComplaints_eq_reportsOf, List.nil_append]
    exact congrArg (_ ++ ·) settingsComplaint_eq_toList
  refine ⟨reportsOf rules, (settingsComplaint file).head?, ?_, by simp [reportsOf],
    fun _ _ _ => reports_of_getElem?, fun _ => head?_settingsComplaint_iff, ?_, message_badCondition⟩
  · rw [verify, hfile, ← hcomplaints]
    rfl
  · rw [List.Nodup, List.pairwise_map, List.pairwise_append]
    refine ⟨message_ne_reportsOf rules, ?_, ?_⟩
    · cases (settingsComplaint file).head? <;> simp
    · intro c hc c' hc'
      obtain ⟨p, hp, hcp⟩ := List.mem_flatMap.mp hc
      obtain ⟨i, hi⟩ := List.getElem?_of_mem hp
      obtain ⟨rule, hreports⟩ := exists_of_getElem?_reportsOf hi
      obtain ⟨t, ht⟩ := hreports.exists_about? hcp
      obtain ⟨v, e, rfl, -⟩ := head?_settingsComplaint_iff.mp (Option.mem_toList.mp hc')
      exact Complaint.message_ne_badSettings ht e

/-- A file with a rule without a condition, and one with the same name and a fault in its condition. -/
def brokenFile : String := "\x7brules: [\x7bname: 'a'\x7d, \x7bname: 'a', when: \x7b$not: null\x7d\x7d]\x7d"

def brokenRules : List Json :=
  [.object [("name", .string "a")], .object [("name", .string "a"), ("when", .object [("$not", .null)])]]

theorem valueOfText_brokenFile :
    Json5.valueOfText brokenFile = .ok (.object [("rules", .array brokenRules)]) := by
  have htokens : Json5.tokenize? brokenFile.toList = some [.openBrace, .name (word "rules"), .colon,
      .openBracket, .openBrace, .name (word "name"), .colon, .string (word "a"), .closeBrace, .comma,
      .openBrace, .name (word "name"), .colon, .string (word "a"), .comma, .name (word "when"), .colon,
      .openBrace, .name (word "$not"), .colon, .name (word "null"), .closeBrace, .closeBrace,
      .closeBracket, .closeBrace] := by decide +kernel
  rw [Json5.valueOfText, Json5.Node.ofText?, htokens]
  rfl

theorem verify_eq_reports_brokenFile :
    Json5.valueOfText brokenFile = .ok (.object [("rules", .array brokenRules)]) ∧
      verify brokenFile = .ok [.missingCondition 0, .duplicateName 1 "a",
        .badCondition 1 ⟨.empty, [.key .not]⟩] ∧
      ["rules[0]: missing 'when'", "rules[1]: duplicate rule name 'a'",
        "rules[1].when.$not: empty condition spec"].Nodup := by
  have hvalue := valueOfText_brokenFile
  have hverify : verify brokenFile = .ok [.missingCondition 0, .duplicateName 1 "a",
      .badCondition 1 ⟨.empty, [.key .not]⟩] := by
    rw [verify, hvalue]
    rfl
  obtain ⟨reports, settings, hreports, -, -, -, hnodup, -⟩ := verify_eq_reports hvalue rfl
  rw [← Except.ok.inj (hverify.symm.trans hreports)] at hnodup
  exact ⟨hvalue, hverify, hnodup⟩

end ReceiptRules.RuleFile

import ReceiptRules.Command.Execution
import ReceiptRules.Proofs.Except

/-!
# Rules that a receipt is classified by

A receipt is classified by a walk over the rules, `RuleSet.walk`, which takes each rule that matches and
ends with the first of them if only that counts. `RuleSet.classify_laws` says which rules these are, that
the category is the first one that any of them has, and how rules that stand behind others add to a
classification.
-/

namespace ReceiptRules

variable {r : Receipt} {firstMatch : Bool} {rule : Rule} {rules rules' : List Rule}

/-! ## The walk over the rules -/

/-- A walk over rules: those taken up to now, and whether the walk is at its end. -/
structure Walk where
  taken : List Rule := []
  ended : Bool := false

/-- Looks at the next rule, unless the walk is at its end. -/
def Walk.step (firstMatch : Bool) (r : Receipt) (w : Walk) (rule : Rule) : Walk :=
  if w.ended then w
  else if rule.condition.holds r then ⟨w.taken ++ [rule], firstMatch⟩
  else w

/-- The walk over all rules of a set. -/
def RuleSet.walk (s : RuleSet) (r : Receipt) : Walk := s.rules.foldl (Walk.step s.firstMatch r) {}

theorem Walk.foldl_step_of_ended {w : Walk} (h : w.ended = true) (rules : List Rule) :
    rules.foldl (step firstMatch r) w = w := by
  induction rules with
  | nil => rfl
  | cons rule rules ih => rw [List.foldl_cons, step, if_pos h, ih]

namespace RuleSet

@[simp] theorem classify_nil : classify ⟨[], firstMatch⟩ r = [] := by
  cases firstMatch <;> rfl

/-- A rule that does not match is passed over. -/
theorem classify_cons_of_not_holds (h : rule.condition.holds r = false) :
    classify ⟨rule :: rules, firstMatch⟩ r = classify ⟨rules, firstMatch⟩ r := by
  simp [classify, Rule.isMatch, h]

/-- A rule that matches is taken, and the rules behind it too unless only the first one counts. -/
theorem classify_cons_of_holds (h : rule.condition.holds r = true) :
    classify ⟨rule :: rules, firstMatch⟩ r =
      rule :: if firstMatch then [] else classify ⟨rules, firstMatch⟩ r := by
  cases firstMatch <;> simp [classify, Rule.isMatch, h]

/-- A walk that goes on takes the rules that the receipt is classified by. -/
theorem taken_foldl_step {w : Walk} (h : w.ended = false) :
    (rules.foldl (Walk.step firstMatch r) w).taken = w.taken ++ classify ⟨rules, firstMatch⟩ r := by
  induction rules generalizing w with
  | nil => simp
  | cons rule rules ih =>
    rw [List.foldl_cons, Walk.step, h]
    cases hmatch : rule.condition.holds r with
    | false => simpa [classify_cons_of_not_holds hmatch] using ih h
    | true =>
      rw [classify_cons_of_holds hmatch]
      cases firstMatch with
      | false => simpa using ih (w := ⟨w.taken ++ [rule], false⟩) rfl
      | true => simp [Walk.foldl_step_of_ended]

theorem classify_eq_taken_walk (s : RuleSet) : s.classify r = (s.walk r).taken :=
  (taken_foldl_step (w := {}) rfl).symm

/-! ## The rules that are taken -/

/-- Without regard to the first match, the rules are taken that stand at the places, in ascending order,
of those that match. -/
theorem exists_places_classify (rules : List Rule) (r : Receipt) :
    ∃ places : List ℕ, places.Pairwise (· < ·) ∧
      (∀ i, i ∈ places ↔ ∃ rule, rules[i]? = some rule ∧ rule.condition.holds r = true) ∧
      (classify ⟨rules, false⟩ r).map some = places.map (rules[·]?) := by
  induction rules with
  | nil => exact ⟨[], by simp⟩
  | cons rule rules ih =>
    obtain ⟨places, hascending, hplaces, hrules⟩ := ih
    have hlater : ∀ i, i + 1 ∈ places.map (· + 1) ↔
        ∃ rule', (rule :: rules)[i + 1]? = some rule' ∧ rule'.condition.holds r = true := by
      simpa using hplaces
    have hascending' : (places.map (· + 1)).Pairwise (· < ·) := by
      simpa [List.pairwise_map] using hascending
    cases hmatch : rule.condition.holds r with
    | false =>
      refine ⟨places.map (· + 1), hascending', ?_, ?_⟩
      · rintro (_ | i)
        · simp [hmatch]
        · exact hlater i
      · rw [classify_cons_of_not_holds hmatch, hrules]
        simp
    | true =>
      refine ⟨0 :: places.map (· + 1), ?_, ?_, ?_⟩
      · exact List.pairwise_cons.mpr ⟨by simp, hascending'⟩
      · rintro (_ | i)
        · simp [hmatch]
        · simpa using hlater i
      · rw [classify_cons_of_holds hmatch]
        simpa [Function.comp_def] using hrules

/-- If only the first match counts, it is the first rule that matches that is taken, if there is one. -/
theorem classify_firstMatch (rules : List Rule) (r : Receipt) :
    ((∀ rule ∈ rules, rule.condition.holds r = false) ∧ classify ⟨rules, true⟩ r = []) ∨
      ∃ before rule after, rules = before ++ rule :: after ∧
        (∀ earlier ∈ before, earlier.condition.holds r = false) ∧ rule.condition.holds r = true ∧
        classify ⟨rules, true⟩ r = [rule] := by
  induction rules with
  | nil => exact .inl (by simp)
  | cons rule rules ih =>
    cases hmatch : rule.condition.holds r with
    | true =>
      refine .inr ⟨[], rule, rules, rfl, by simp, hmatch, ?_⟩
      simp [classify_cons_of_holds hmatch]
    | false =>
      rw [classify_cons_of_not_holds hmatch]
      rcases ih with ⟨hnone, hclassify⟩ | ⟨before, found, after, rfl, hbefore, hfound, hclassify⟩
      · exact .inl ⟨List.forall_mem_cons.mpr ⟨hmatch, hnone⟩, hclassify⟩
      · exact .inr ⟨rule :: before, found, after, rfl, List.forall_mem_cons.mpr ⟨hmatch, hbefore⟩,
          hfound, hclassify⟩

/-! ## Rules behind others -/

theorem classify_append :
    classify ⟨rules ++ rules', false⟩ r =
      classify ⟨rules, false⟩ r ++ classify ⟨rules', false⟩ r := by
  induction rules with
  | nil => simp
  | cons rule rules ih =>
    rw [List.cons_append]
    cases hmatch : rule.condition.holds r with
    | false => rw [classify_cons_of_not_holds hmatch, classify_cons_of_not_holds hmatch, ih]
    | true => simp [classify_cons_of_holds hmatch, ih]

theorem classify_append_firstMatch :
    classify ⟨rules ++ rules', true⟩ r =
      if classify ⟨rules, true⟩ r = [] then classify ⟨rules', true⟩ r
      else classify ⟨rules, true⟩ r := by
  induction rules with
  | nil => simp
  | cons rule rules ih =>
    rw [List.cons_append]
    cases hmatch : rule.condition.holds r with
    | false => rw [classify_cons_of_not_holds hmatch, classify_cons_of_not_holds hmatch, ih]
    | true => simp [classify_cons_of_holds hmatch]

/-! ## Categories -/

theorem categoryFor_eq_some_iff {s : RuleSet} {category : String} :
    s.categoryFor r = some category ↔
      ∃ before rule after, s.classify r = before ++ rule :: after ∧
        rule.category = some category ∧ ∀ earlier ∈ before, earlier.category = none :=
  List.findSome?_eq_some_iff

/-- What the command for classifications comes to. -/
theorem classified_of_conclude {env : Environment} {options : Options} {source : ReceiptSource}
    {o : Outcome} (h : (Command.classify source).conclude env options = .ok o) :
    ∃ s r, env.rules options = .ok s ∧ env.receipt source = .ok r ∧
      o = .classified (s.classify r) (s.categoryFor r) := by
  simp only [Command.conclude, bind_eq_ok, pure_eq_ok] at h
  obtain ⟨s, hs, r, hr, rfl⟩ := h
  exact ⟨s, r, hs, hr, rfl⟩

/-- The laws of classification. The walk over the rules takes all rules that match, each at its place, or
the first of them and nothing else; the category is the first one that a taken rule has, as in the outcome
of the command; rules behind others add those of them that are taken, unless the first match is found
before. -/
theorem classify_laws (rules rules' : List Rule) (r : Receipt) :
    (∀ firstMatch, classify ⟨rules, firstMatch⟩ r = (walk ⟨rules, firstMatch⟩ r).taken) ∧
      (∃ places : List ℕ, places.Pairwise (· < ·) ∧
        (∀ i, i ∈ places ↔ ∃ rule, rules[i]? = some rule ∧ rule.condition.holds r = true) ∧
        (classify ⟨rules, false⟩ r).map some = places.map (rules[·]?)) ∧
      (((∀ rule ∈ rules, rule.condition.holds r = false) ∧ classify ⟨rules, true⟩ r = []) ∨
        ∃ before rule after, rules = before ++ rule :: after ∧
          (∀ earlier ∈ before, earlier.condition.holds r = false) ∧ rule.condition.holds r = true ∧
          classify ⟨rules, true⟩ r = [rule]) ∧
      (∀ firstMatch category, categoryFor ⟨rules, firstMatch⟩ r = some category ↔
        ∃ before rule after, classify ⟨rules, firstMatch⟩ r = before ++ rule :: after ∧
          rule.category = some category ∧ ∀ earlier ∈ before, earlier.category = none) ∧
      (∀ (env : Environment) options source o,
        (Command.classify source).conclude env options = .ok o →
          ∃ s r, env.rules options = .ok s ∧ env.receipt source = .ok r ∧
            o = .classified (s.classify r) (s.categoryFor r)) ∧
      classify ⟨rules ++ rules', false⟩ r =
        classify ⟨rules, false⟩ r ++ classify ⟨rules', false⟩ r ∧
      classify ⟨rules ++ rules', true⟩ r =
        if classify ⟨rules, true⟩ r = [] then classify ⟨rules', true⟩ r
        else classify ⟨rules, true⟩ r :=
  ⟨fun _ => classify_eq_taken_walk _, exists_places_classify rules r, classify_firstMatch rules r,
    fun _ _ => categoryFor_eq_some_iff, fun _ _ _ _ => classified_of_conclude, classify_append,
    classify_append_firstMatch⟩

/-- A rule without a category. -/
def cardRule : Rule where
  name := "card"
  condition := .leaf (.paymentMethod "CARD")

def euroRule : Rule where
  name := "euro"
  condition := .leaf (.currency "EUR")
  category := some "domestic"

def cardReceipt : Receipt where
  amount := some { currency := some "EUR" }
  paymentMethod := some "CARD"

/-- If only the first match counts, a rule without a category hides the category of the next one. -/
theorem classify_laws_hiddenCategory :
    classify ⟨[cardRule, euroRule], false⟩ cardReceipt = [cardRule, euroRule] ∧
      categoryFor ⟨[cardRule, euroRule], false⟩ cardReceipt = some "domestic" ∧
      classify ⟨[cardRule, euroRule], true⟩ cardReceipt = [cardRule] ∧
      categoryFor ⟨[cardRule, euroRule], true⟩ cardReceipt = none := by
  obtain ⟨-, -, -, -, -, hall, hfirst⟩ := classify_laws [cardRule] [euroRule] cardReceipt
  obtain ⟨-, -, -, hcategory, -⟩ := classify_laws [cardRule, euroRule] [] cardReceipt
  refine ⟨hall, (hcategory false "domestic").mpr ?_, hfirst, ?_⟩
  · exact ⟨[cardRule], euroRule, [], hall, rfl, by simp [cardRule]⟩
  · rfl

end RuleSet

end ReceiptRules

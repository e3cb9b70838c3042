import ReceiptRules.Command.Report
import ReceiptRules.Proofs.RuleFile.VerifySaved

/-!
# Exit codes

By its exit code a command tells what it has found in its spec, in its receipt and in the rule file, and
whether there is a place to look for the rule file. The code does not depend on the way in which the command
writes what it finds out, and a quiet command writes nothing if it has found no fault
(`exitCode_run_iff_and_quiet`).
-/

namespace ReceiptRules

open RuleFile (Complaint StoreError)

variable {env : Environment} {options : Options} {place : Except StoreError String} {path : String}

namespace Conclusion

/-- A part with a fault decides how a command ends, whatever the command would go on to do. -/
theorem exitCode_bind {α : Type} {x : Except Failure α} {code : ExitCode} (hx : ∀ a, x ≠ .ok a)
    (hcode : ∀ f, x = .error f → f.exitCode = code) (rest : α → Conclusion) :
    Conclusion.exitCode (x >>= rest) = code := by
  obtain ⟨f, hf⟩ := eq_error_of_ne_ok hx
  rw [hf]
  exact hcode f hf

/-- A quiet command writes nothing but urgent outcomes. -/
theorem output_quiet (c : Conclusion) :
    c.output .quiet = "" ∨ ∃ o, c = .ok o ∧ o.isUrgent = true := by
  cases c with
  | error f => exact .inl rfl
  | ok o =>
    cases hurgent : o.isUrgent with
    | true => exact .inr ⟨o, rfl, hurgent⟩
    | false => exact .inl (by simp [output, hurgent])

end Conclusion

/-! ## What a command is given -/

namespace Environment

variable (env)

/-- The condition that a spec stands for, which is given as it is or in a file. -/
inductive GivesCondition : SpecSource → Condition → Prop
  | text {spec : String} {c : Condition} (parses : Condition.ofText spec = .ok c) :
      GivesCondition (.text spec) c
  | file {path spec : String} {c : Condition} (reads : env.files.read path = .ok spec)
      (parses : Condition.ofText spec = .ok c) : GivesCondition (.file path) c

/-- The receipt on the input or in a file. -/
inductive GivesReceipt : ReceiptSource → Receipt → Prop
  | input {text : String} {r : Receipt} (reads : env.input = .ok text)
      (parses : Receipt.ofText text = .ok r) : GivesReceipt .input r
  | file {path text : String} {r : Receipt} (reads : env.files.read path = .ok text)
      (parses : Receipt.ofText text = .ok r) : GivesReceipt (.file path) r

/-- The rules in the rule file at a path. Where there is no file, there are no rules. -/
inductive GivesRules (path : String) : RuleSet → Prop
  | missing (missing : env.files.contains path = false) : GivesRules path {}
  | file {text : String} {s : RuleSet} (there : env.files.contains path = true)
      (reads : env.files.read path = .ok text) (parses : RuleSet.ofText text = .ok s) :
      GivesRules path s

/-- The complaints about the rule file at a path, which must be there. -/
inductive GivesComplaints (path : String) : List Complaint → Prop
  | file {text : String} {complaints : List Complaint} (there : env.files.contains path = true)
      (reads : env.files.read path = .ok text) (verified : RuleFile.verify text = .ok complaints) :
      GivesComplaints path complaints

variable {env}

theorem condition_eq_ok_iff {source : SpecSource} {c : Condition} :
    env.condition source = .ok c ↔ env.GivesCondition source c := by
  cases source with
  | text spec =>
    simp only [condition, specText, bind_eq_ok, mapError_eq_ok, Except.ok.injEq, exists_eq_left']
    constructor
    · intro parses
      exact .text parses
    · intro h
      cases h with
      | text parses => exact parses
  | file path =>
    simp only [condition, specText, bind_eq_ok, mapError_eq_ok]
    constructor
    · intro h
      rcases h with ⟨spec, reads, parses⟩
      exact .file reads parses
    · intro h
      cases h with
      | file reads parses => exact ⟨_, reads, parses⟩

theorem receipt_eq_ok_iff {source : ReceiptSource} {r : Receipt} :
    env.receipt source = .ok r ↔ env.GivesReceipt source r := by
  cases source with
  | input =>
    simp only [receipt, receiptText, bind_eq_ok, mapError_eq_ok]
    constructor
    · intro h
      rcases h with ⟨text, reads, parses⟩
      exact .input reads parses
    · intro h
      cases h with
      | input reads parses => exact ⟨_, reads, parses⟩
  | file path =>
    simp only [receipt, receiptText, bind_eq_ok, mapError_eq_ok]
    constructor
    · intro h
      rcases h with ⟨text, reads, parses⟩
      exact .file reads parses
    · intro h
      cases h with
      | file reads parses => exact ⟨_, reads, parses⟩

theorem load_eq_ok_iff {s : RuleSet} :
    RuleFile.load env.files path = .ok s ↔ env.GivesRules path s := by
  by_cases there : env.files.contains path = true
  · rw [RuleFile.load, if_pos there]
    simp only [bind_eq_ok, mapError_eq_ok]
    constructor
    · intro h
      rcases h with ⟨text, reads, parses⟩
      exact .file there reads parses
    · intro h
      cases h with
      | missing missing => exact absurd there (by simp [missing])
      | file _ reads parses => exact ⟨_, reads, parses⟩
  · rw [RuleFile.load, if_neg there]
    constructor
    · intro h
      cases h
      exact .missing (by simpa using there)
    · intro h
      cases h with
      | missing => rfl
      | file there' => exact absurd there' there

theorem rules_eq_ok_iff (hpath : env.rulePath options = .ok path) {s : RuleSet} :
    env.rules options = .ok s ↔ env.GivesRules path s := by
  rw [rules, mapError_eq_ok, hpath]
  exact load_eq_ok_iff

theorem verifyAt_eq_ok_iff {complaints : List Complaint} :
    RuleFile.verifyAt env.files path = .ok complaints ↔ env.GivesComplaints path complaints := by
  by_cases there : env.files.contains path = true
  · rw [RuleFile.verifyAt, if_pos there]
    simp only [bind_eq_ok, mapError_eq_ok]
    constructor
    · intro h
      rcases h with ⟨text, reads, verified⟩
      exact .file there reads verified
    · intro h
      cases h with
      | file _ reads verified => exact ⟨_, reads, verified⟩
  · rw [RuleFile.verifyAt, if_neg there]
    constructor
    · intro h
      cases h
    · intro h
      cases h with
      | file there' => exact absurd there' there

/-! ## The codes of faults

Each part that a command reads has one code for all its faults. -/

theorem exitCode_of_condition_eq_error {source : SpecSource} {f : Failure}
    (h : env.condition source = .error f) : f.exitCode = .badSpec := by
  rw [condition, bind_eq_error] at h
  rcases h with h | ⟨spec, -, h⟩
  · cases source with
    | text spec => cases h
    | file path =>
      obtain ⟨e, -, rfl⟩ := mapError_eq_error.mp h
      rfl
  · obtain ⟨e, -, rfl⟩ := mapError_eq_error.mp h
    rfl

theorem exitCode_of_receipt_eq_error {source : ReceiptSource} {f : Failure}
    (h : env.receipt source = .error f) : f.exitCode = .badReceipt := by
  rw [receipt, bind_eq_error] at h
  rcases h with h | ⟨text, -, h⟩
  · cases source <;>
    · obtain ⟨e, -, rfl⟩ := mapError_eq_error.mp h
      rfl
  · obtain ⟨e, -, rfl⟩ := mapError_eq_error.mp h
    rfl

theorem exitCode_of_rules_eq_error {f : Failure} (h : env.rules options = .error f) :
    f.exitCode = .badRuleFile := by
  obtain ⟨e, -, rfl⟩ := mapError_eq_error.mp h
  rfl

theorem exitCode_bind_condition {source : SpecSource} (bad : ∀ c, ¬ env.GivesCondition source c)
    (rest : Condition → Conclusion) : Conclusion.exitCode (env.condition source >>= rest) = .badSpec :=
  Conclusion.exitCode_bind (fun c hc => bad c (condition_eq_ok_iff.mp hc))
    (fun _ => exitCode_of_condition_eq_error) rest

theorem exitCode_bind_receipt {source : ReceiptSource} (bad : ∀ r, ¬ env.GivesReceipt source r)
    (rest : Receipt → Conclusion) : Conclusion.exitCode (env.receipt source >>= rest) = .badReceipt :=
  Conclusion.exitCode_bind (fun r hr => bad r (receipt_eq_ok_iff.mp hr))
    (fun _ => exitCode_of_receipt_eq_error) rest

theorem exitCode_bind_rules (hpath : env.rulePath options = .ok path)
    (bad : ∀ s, ¬ env.GivesRules path s) (rest : RuleSet → Conclusion) :
    Conclusion.exitCode (env.rules options >>= rest) = .badRuleFile :=
  Conclusion.exitCode_bind (fun s hs => bad s ((rules_eq_ok_iff hpath).mp hs))
    (fun _ => exitCode_of_rules_eq_error) rest

end Environment

/-! ## How commands end -/

namespace Command

/-- The commands that find out whether what they are given is good, or what it says. -/
inductive Judges : Command → Prop
  | check (spec : SpecSource) : Judges (check spec)
  | eval (spec : SpecSource) (receipt : ReceiptSource) : Judges (eval spec receipt)
  | classify (receipt : ReceiptSource) : Judges (classify receipt)
  | verify : Judges (ruleFile .verify)

/-- The exit code of a command by what its spec, its receipt and the rule file give, where the rule file
has a path or there is a reason why none is known. The spec and the rule file come before the receipt.
Without a path, to classify ends as with bad rules, but to verify ends in a failure that has no code of its
own. -/
inductive Ends (env : Environment) (place : Except StoreError String) : Command → ℕ → Prop
  | check {spec : SpecSource} {c : Condition} (good : env.GivesCondition spec c) :
      Ends env place (check spec) 0
  | checkBadSpec {spec : SpecSource} (bad : ∀ c, ¬ env.GivesCondition spec c) :
      Ends env place (check spec) 3
  | evalTrue {spec : SpecSource} {receipt : ReceiptSource} {c : Condition} {r : Receipt}
      (goodSpec : env.GivesCondition spec c) (goodReceipt : env.GivesReceipt receipt r)
      (holds : c.holds r = true) : Ends env place (eval spec receipt) 0
  | evalFalse {spec : SpecSource} {receipt : ReceiptSource} {c : Condition} {r : Receipt}
      (goodSpec : env.GivesCondition spec c) (goodReceipt : env.GivesReceipt receipt r)
      (fails : c.holds r = false) : Ends env place (eval spec receipt) 2
  | evalBadSpec {spec : SpecSource} {receipt : ReceiptSource}
      (bad : ∀ c, ¬ env.GivesCondition spec c) : Ends env place (eval spec receipt) 3
  | evalBadReceipt {spec : SpecSource} {receipt : ReceiptSource} {c : Condition}
      (goodSpec : env.GivesCondition spec c) (bad : ∀ r, ¬ env.GivesReceipt receipt r) :
      Ends env place (eval spec receipt) 4
  | classifySome {receipt : ReceiptSource} {path : String} {s : RuleSet} {r : Receipt}
      (located : place = .ok path) (goodRules : env.GivesRules path s)
      (goodReceipt : env.GivesReceipt receipt r) (some : s.classify r ≠ []) :
      Ends env place (classify receipt) 0
  | classifyNone {receipt : ReceiptSource} {path : String} {s : RuleSet} {r : Receipt}
      (located : place = .ok path) (goodRules : env.GivesRules path s)
      (goodReceipt : env.GivesReceipt receipt r) (none : s.classify r = []) :
      Ends env place (classify receipt) 2
  | classifyBadRules {receipt : ReceiptSource} {path : String} (located : place = .ok path)
      (there : env.files.contains path = true) (bad : ∀ s, ¬ env.GivesRules path s) :
      Ends env place (classify receipt) 5
  | classifyBadReceipt {receipt : ReceiptSource} {path : String} {s : RuleSet}
      (located : place = .ok path) (goodRules : env.GivesRules path s)
      (bad : ∀ r, ¬ env.GivesReceipt receipt r) : Ends env place (classify receipt) 4
  | classifyNowhere {receipt : ReceiptSource} {e : StoreError} (nowhere : place = .error e) :
      Ends env place (classify receipt) 5
  | verify {path : String} (located : place = .ok path) (good : env.GivesComplaints path []) :
      Ends env place (ruleFile .verify) 0
  | verifyBadRules {path : String} (located : place = .ok path)
      (bad : ¬ env.GivesComplaints path []) : Ends env place (ruleFile .verify) 5
  | verifyNowhere {e : StoreError} (nowhere : place = .error e) : Ends env place (ruleFile .verify) 1

variable {command : Command} {n : ℕ}

/-- Every classification by the rule file at a path ends in one of the ways. -/
theorem exists_ends_classify (located : place = .ok path) (env : Environment) (receipt : ReceiptSource) :
    ∃ n, Ends env place (classify receipt) n := by
  by_cases hrules : ∃ s, env.GivesRules path s
  · obtain ⟨s, hrules⟩ := hrules
    by_cases hreceipt : ∃ r, env.GivesReceipt receipt r
    · obtain ⟨r, hreceipt⟩ := hreceipt
      by_cases hnone : s.classify r = []
      · exact ⟨2, .classifyNone located hrules hreceipt hnone⟩
      · exact ⟨0, .classifySome located hrules hreceipt hnone⟩
    · exact ⟨4, .classifyBadReceipt located hrules (not_exists.mp hreceipt)⟩
  · have there : env.files.contains path = true := by
      by_contra hmissing
      exact hrules ⟨{}, .missing (by simpa using hmissing)⟩
    exact ⟨5, .classifyBadRules located there (not_exists.mp hrules)⟩

/-- Every command that judges ends in one of the ways. -/
theorem Judges.exists_ends (h : command.Judges) (env : Environment)
    (place : Except StoreError String) : ∃ n, Ends env place command n := by
  cases h with
  | check spec =>
    by_cases hspec : ∃ c, env.GivesCondition spec c
    · obtain ⟨c, hspec⟩ := hspec
      exact ⟨0, .check hspec⟩
    · exact ⟨3, .checkBadSpec (not_exists.mp hspec)⟩
  | eval spec receipt =>
    by_cases hspec : ∃ c, env.GivesCondition spec c
    · obtain ⟨c, hspec⟩ := hspec
      by_cases hreceipt : ∃ r, env.GivesReceipt receipt r
      · obtain ⟨r, hreceipt⟩ := hreceipt
        cases hholds : c.holds r with
        | true => exact ⟨0, .evalTrue hspec hreceipt hholds⟩
        | false => exact ⟨2, .evalFalse hspec hreceipt hholds⟩
      · exact ⟨4, .evalBadReceipt hspec (not_exists.mp hreceipt)⟩
    · exact ⟨3, .evalBadSpec (not_exists.mp hspec)⟩
  | classify receipt =>
    cases place with
    | error e => exact ⟨5, .classifyNowhere rfl⟩
    | ok path => exact exists_ends_classify rfl env receipt
  | verify =>
    cases place with
    | error e => exact ⟨1, .verifyNowhere rfl⟩
    | ok path =>
      by_cases hgood : env.GivesComplaints path []
      · exact ⟨0, .verify rfl hgood⟩
      · exact ⟨5, .verifyBadRules rfl hgood⟩

theorem exitCode_conclude_eval {spec : SpecSource} {receipt : ReceiptSource} {c : Condition} {r : Receipt}
    (goodSpec : env.GivesCondition spec c) (goodReceipt : env.GivesReceipt receipt r) :
    ((eval spec receipt).conclude env options).exitCode =
      if c.holds r then .success else .noMatch := by
  rw [conclude, Environment.condition_eq_ok_iff.mpr goodSpec,
    Environment.receipt_eq_ok_iff.mpr goodReceipt]
  rfl

theorem exitCode_conclude_classify (hpath : env.rulePath options = .ok path) {receipt : ReceiptSource}
    {s : RuleSet} {r : Receipt} (goodRules : env.GivesRules path s)
    (goodReceipt : env.GivesReceipt receipt r) :
    ((classify receipt).conclude env options).exitCode =
      if (s.classify r).isEmpty then .noMatch else .success := by
  rw [conclude, (Environment.rules_eq_ok_iff hpath).mpr goodRules,
    Environment.receipt_eq_ok_iff.mpr goodReceipt]
  rfl

theorem conclude_verify (hpath : env.rulePath options = .ok path) :
    (ruleFile .verify).conclude env options =
      (RuleFile.verifyAt env.files path).mapError .badRuleFile >>= fun complaints =>
        .ok (.verified path complaints) := by
  rw [conclude, hpath]
  rfl

theorem conclude_classify_nowhere {e : StoreError} (nowhere : env.rulePath options = .error e)
    (receipt : ReceiptSource) :
    (classify receipt).conclude env options = .error (.badRuleFile e) := by
  have hrules : env.rules options = .error (.badRuleFile e) := by
    rw [Environment.rules, nowhere]
    rfl
  rw [conclude, hrules]
  rfl

theorem conclude_verify_nowhere {e : StoreError} (nowhere : env.rulePath options = .error e) :
    (ruleFile .verify).conclude env options = .error (.cannotStore e) := by
  rw [conclude, nowhere]
  rfl

/-- A command ends with the code of the way in which it ends. -/
theorem Ends.exitCode_conclude (h : Ends env (env.rulePath options) command n) :
    (command.conclude env options).exitCode.toNat = n := by
  cases h with
  | check good =>
    rw [conclude, Environment.condition_eq_ok_iff.mpr good]
    rfl
  | checkBadSpec bad =>
    rw [conclude, Environment.exitCode_bind_condition bad]
    rfl
  | evalTrue goodSpec goodReceipt holds =>
    rw [exitCode_conclude_eval goodSpec goodReceipt, if_pos holds]
    rfl
  | evalFalse goodSpec goodReceipt fails =>
    rw [exitCode_conclude_eval goodSpec goodReceipt, if_neg (by simp [fails])]
    rfl
  | evalBadSpec bad =>
    rw [conclude, Environment.exitCode_bind_condition bad]
    rfl
  | evalBadReceipt goodSpec bad =>
    rw [conclude, Environment.condition_eq_ok_iff.mpr goodSpec]
    exact congrArg ExitCode.toNat (Environment.exitCode_bind_receipt bad _)
  | classifySome located goodRules goodReceipt some =>
    rw [exitCode_conclude_classify located goodRules goodReceipt, if_neg (by simpa using some)]
    rfl
  | classifyNone located goodRules goodReceipt none =>
    rw [exitCode_conclude_classify located goodRules goodReceipt, if_pos (by simpa using none)]
    rfl
  | classifyBadRules located there bad =>
    rw [conclude, Environment.exitCode_bind_rules located bad]
    rfl
  | classifyBadReceipt located goodRules bad =>
    rw [conclude, (Environment.rules_eq_ok_iff located).mpr goodRules]
    exact congrArg ExitCode.toNat (Environment.exitCode_bind_receipt bad _)
  | classifyNowhere nowhere =>
    rw [conclude_classify_nowhere nowhere]
    rfl
  | verify located good =>
    rw [conclude_verify located, Environment.verifyAt_eq_ok_iff.mpr good]
    rfl
  | @verifyBadRules path located bad =>
    rw [conclude_verify located]
    cases h : RuleFile.verifyAt env.files path with
    | error e => rfl
    | ok complaints =>
      cases complaints with
      | nil => exact absurd (Environment.verifyAt_eq_ok_iff.mp h) bad
      | cons complaint complaints => rfl
  | verifyNowhere nowhere =>
    rw [conclude_verify_nowhere nowhere]
    rfl

/-- A command that judges ends in one way only, so that its exit code is a function of what it is given. -/
theorem exitCode_conclude_iff (hcommand : command.Judges) :
    (command.conclude env options).exitCode.toNat = n ↔ Ends env (env.rulePath options) command n := by
  constructor
  · intro h
    obtain ⟨m, hm⟩ := hcommand.exists_ends env (env.rulePath options)
    rwa [← h, hm.exitCode_conclude]
  · intro h
    exact h.exitCode_conclude

/-- Of the outcomes of a command that judges, a quiet command writes faults in the rule file only. -/
theorem Judges.exitCode_of_isUrgent (hcommand : command.Judges) {o : Outcome}
    (h : command.conclude env options = .ok o) (urgent : o.isUrgent = true) :
    o.exitCode = .badRuleFile := by
  cases hcommand with
  | check spec =>
    simp only [conclude, bind_eq_ok, pure_eq_ok] at h
    obtain ⟨c, -, rfl⟩ := h
    cases urgent
  | eval spec receipt =>
    simp only [conclude, bind_eq_ok, pure_eq_ok] at h
    obtain ⟨c, -, r, -, rfl⟩ := h
    cases urgent
  | classify receipt =>
    simp only [conclude, bind_eq_ok, pure_eq_ok] at h
    obtain ⟨s, -, r, -, rfl⟩ := h
    cases urgent
  | verify =>
    simp only [conclude, bind_eq_ok, pure_eq_ok] at h
    obtain ⟨path, -, complaints, -, rfl⟩ := h
    rw [Outcome.isUrgent, Bool.not_eq_true'] at urgent
    rw [Outcome.exitCode, urgent]
    rfl

end Command

namespace Invocation

variable {i : Invocation}

/-- A quiet classification of the receipt on the input. -/
def quietClassification : Invocation where
  command := .classify .input
  options := { rulePath := some "rules.json", quiet := true }

/-- A receipt for food. -/
def groceries : Receipt := (Receipt.withAmount {} 12.5 "EUR").withPlace none (some "food")

def groceriesText : String :=
  "\x7bamount: \x7bvalue: 12.5, currency: 'EUR'\x7d, place: \x7btypeCategory: 'food'\x7d\x7d"

theorem ofText_groceriesText : Receipt.ofText groceriesText = .ok groceries :=
  toOption_eq_some_iff.mp (by decide +kernel)

/-- The example rules in the rule file, and on the input the receipt for food. -/
def groceriesGiven : Environment where
  input := .ok groceriesText
  files := { entries := [(["rules.json"], .file (RuleFile.text RuleFile.exampleRules))] }

/-- A text that holds no rules in the rule file, and nothing that can be read on the input. -/
def faultsGiven : Environment where
  input := .error .notText
  files := { entries := [(["rules.json"], .file "true")] }

theorem ends_groceriesGiven : Command.Ends groceriesGiven (.ok "rules.json") (.classify .input) 0 := by
  have hlookup : groceriesGiven.files.lookup (.ofText "rules.json") =
      .ok (.file (RuleFile.text RuleFile.exampleRules)) := by
    have hpath : FilePath.ofText "rules.json" = ⟨false, ["rules.json"], false⟩ := by decide +kernel
    rw [hpath]
    rfl
  have hrules : groceriesGiven.GivesRules "rules.json" RuleFile.exampleRules :=
    Environment.load_eq_ok_iff.mp (RuleFile.load_examples hlookup)
  have hmatch : RuleFile.exampleRules.classify groceries ≠ [] := by decide +kernel
  exact .classifySome rfl hrules (.input rfl ofText_groceriesText) hmatch

theorem ends_faultsGiven : Command.Ends faultsGiven (.ok "rules.json") (.classify .input) 5 := by
  have hbad : ∀ s, RuleFile.load faultsGiven.files "rules.json" ≠ .ok s :=
    toOption_eq_none_iff.mp (by decide +kernel)
  exact .classifyBadRules rfl (by decide +kernel) fun s hs => hbad s (Environment.load_eq_ok_iff.mpr hs)

/-- A verification of the rule file. -/
def verification : Invocation where
  command := .ruleFile .verify

/-- A classification of the receipt on the input by the rules of the rule file. -/
def classification : Invocation where
  command := .classify .input

/-- No variables, so that there is no place for a rule file, and on the input the receipt for food. -/
def nowhereGiven : Environment where
  input := .ok groceriesText

end Invocation

end ReceiptRules

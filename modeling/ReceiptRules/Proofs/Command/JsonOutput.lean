import ReceiptRules.Command.Report
import ReceiptRules.Proofs.Condition.FirstFault
import ReceiptRules.Proofs.Json.WrittenLine
import ReceiptRules.Proofs.Receipt.Fields

/-!
# Output in JSON

In JSON mode a command whose outcome has a JSON form writes one line, and the line is read back as one
object, which holds a result or an error and tells all that the exit code rests on:
`Invocation.output_json`. This is so whatever texts come into it, such as specs in error messages, names
of rules and paths.
-/

namespace ReceiptRules

open Json

namespace Json

/-- The values under a key of an object, in their order. -/
def Written.values (key : String) : Written → List Written
  | .object entries => entries.filterMap fun (k, v) => if k = key then some v else none
  | _ => []

theorem writtenItems_eq_map (items : List Json) : writtenItems items = items.map written := by
  induction items with
  | nil => rw [writtenItems, List.map_nil]
  | cons item items ih => rw [writtenItems, ih, List.map_cons]

@[simp] theorem written_bool (b : Bool) : (bool b).written = .bool b := by rw [written]

@[simp] theorem written_string (s : String) : (string s).written = .string s := by rw [written]

@[simp] theorem written_array (items : List Json) :
    (array items).written = .array (items.map written) := by
  rw [written, writtenItems_eq_map]

/-- What is under a key of a written object is what was put there. -/
@[simp] theorem values_written_object (key : String) (entries : List (String × Json)) :
    (object entries).written.values key = (entryValues key entries).map written := by
  rw [written, Written.values]
  induction entries with
  | nil => simp [writtenEntries, entryValues]
  | cons e entries ih =>
    obtain ⟨k, v⟩ := e
    rw [writtenEntries]
    by_cases h : k = key
    · subst h
      rw [entryValues_cons_self, List.map_cons, ← ih]
      simp
    · rw [entryValues_cons_of_ne h, ← ih]
      simp [h]

end Json

/-! ## What is told -/

/-- The commands whose outcomes have a JSON form. -/
inductive Command.Answers : Command → Prop
  | check (spec : SpecSource) : Answers (check spec)
  | eval (spec : SpecSource) (receipt : ReceiptSource) : Answers (eval spec receipt)
  | classify (receipt : ReceiptSource) : Answers (classify receipt)
  | keys : Answers keys
  | verify : Answers (ruleFile .verify)

namespace Failure

/-- The text of the place of a fault in a spec, unless it is empty. -/
def placeTexts : Failure → List String
  | badSpec e => if placeText e.place = "" then [] else [placeText e.place]
  | _ => []

/-- The name of the key that is suggested in place of an unknown one, if there is a suggestion. -/
def suggestedNames : Failure → List String
  | badSpec ⟨.unknownKey _ (some k), _⟩ => [k.name]
  | _ => []

/-- What an error object tells of a failure: its number and message, and as data the place of a fault in a
spec and a suggestion, each if there is one. There is no data without either. -/
structure IsTold (f : Failure) (code : ExitCode) (e : Written) : Prop where
  number : e.values "code" = [.number (toString (-32000 - (code.toNat : ℤ)))]
  message : e.values "message" = [.string f.message]
  details : (e.values "data").flatMap (·.values "details") = f.placeTexts.map .string
  suggestions : (e.values "data").flatMap (·.values "suggestions") =
    f.suggestedNames.map fun name => .array [.string name]
  data : e.values "data" = [] ↔ f.placeTexts = [] ∧ f.suggestedNames = []

end Failure

/-- What a result tells of an outcome, and what exit code the outcome has. -/
def Outcome.IsTold (o : Outcome) (code : ExitCode) (r : Written) : Prop :=
  match o with
  | .checked c =>
    r.values "valid" = [.bool true] ∧ r.values "condition" = [.string c.describe] ∧
      r.values "spec" = [c.toSpec.written] ∧ code = .success
  | .evaluated c holds =>
    r.values "matched" = [.bool holds] ∧ r.values "condition" = [.string c.describe] ∧
      code = if holds then .success else .noMatch
  | .classified matched category =>
    (∃ items, r.values "matched" = [.array items] ∧
        List.Forall₂ (fun rule item => item.values "name" = [.string rule.name] ∧
          item.values "category" = (rule.category.map .string).toList) matched items) ∧
      r.values "category" = (category.map .string).toList ∧
      code = if matched = [] then .noMatch else .success
  | .keys => r = .array (Key.known.map fun k => .string k.name) ∧ code = .success
  | .verified path complaints =>
    r.values "path" = [.string path] ∧ r.values "valid" = [.bool complaints.isEmpty] ∧
      r.values "errors" = [.array (complaints.map fun c => .string c.message)] ∧
      code = if complaints = [] then .success else .badRuleFile
  | .located _ | .rules _ | .written _ | .completions _ => False

namespace Failure
variable (f : Failure)

theorem entryValues_details (key : String) :
    entryValues key f.details =
      (if "suggestions" = key then (f.suggestion?.map fun k => Json.array [.string k.name]).toList
        else []) ++
      if "details" = key then (f.place?.map fun place => Json.string (placeText place)).toList else [] := by
  rw [details, entryValues_append, entryValues_optionalEntry, entryValues_optionalEntry]

theorem values_data_error :
    f.error.written.values "data" = if f.details = [] then [] else [(Json.object f.details).written] := by
  rw [error, values_written_object]
  by_cases h : f.details = [] <;> simp [entryValues, h]

/-- What is under a key of the data of an error. -/
theorem flatMap_values_data_error (key : String) :
    (f.error.written.values "data").flatMap (·.values key) = (entryValues key f.details).map written := by
  rw [values_data_error]
  by_cases h : f.details = []
  · simp [h, entryValues]
  · simp [h, values_written_object]

theorem toList_place? :
    (f.place?.map fun place => Json.string (placeText place)).toList.map written =
      f.placeTexts.map .string := by
  cases f with
  | badSpec e =>
    obtain ⟨fault, place⟩ := e
    cases place with
    | nil => simp [place?, placeTexts, placeText]
    | cons s place => simp [place?, placeTexts, placeText_cons_ne_empty]
  | _ => rfl

theorem toList_suggestion? :
    (f.suggestion?.map fun k => Json.array [.string k.name]).toList.map written =
      f.suggestedNames.map fun name => .array [.string name] := by
  cases f with
  | badSpec e =>
    obtain ⟨fault, place⟩ := e
    cases fault with
    | unknownKey key suggestion =>
      cases suggestion <;> simp [suggestion?, suggestedNames]
    | _ => rfl
  | _ => rfl

theorem details_eq_nil_iff : f.details = [] ↔ f.placeTexts = [] ∧ f.suggestedNames = [] := by
  have hplace := congrArg List.length f.toList_place?
  have hsuggestion := congrArg List.length f.toList_suggestion?
  simp only [← List.length_eq_zero_iff, List.length_map] at hplace hsuggestion ⊢
  rw [← hplace, ← hsuggestion, details]
  cases f.place? <;> cases f.suggestion? <;> simp [optionalEntry]

theorem isTold_error : f.IsTold f.exitCode f.error.written where
  number := by
    have hfits : FitsInteger f.errorNumber := by
      cases hcode : f.exitCode <;> simp [errorNumber, hcode, ExitCode.toNat, FitsInteger]
    have hnumber : (Json.ofInt f.errorNumber).written = .number (toString f.errorNumber) := by
      rw [Json.ofInt, dif_pos hfits]
      rfl
    rw [error, values_written_object]
    by_cases h : f.details = [] <;> simp [entryValues, h, hnumber] <;> rfl
  message := by
    rw [error, values_written_object]
    by_cases h : f.details = [] <;> simp [entryValues, h]
  details := by
    rw [flatMap_values_data_error, entryValues_details]
    simpa using f.toList_place?
  suggestions := by
    rw [flatMap_values_data_error, entryValues_details]
    simpa using f.toList_suggestion?
  data := by
    rw [values_data_error, ← details_eq_nil_iff]
    by_cases h : f.details = [] <;> simp [h]

end Failure

theorem values_ruleResult (rule : Rule) :
    (Outcome.ruleResult rule).written.values "name" = [.string rule.name] ∧
      (Outcome.ruleResult rule).written.values "category" =
        (rule.category.map .string).toList := by
  rw [Outcome.ruleResult, values_written_object, values_written_object]
  obtain ⟨name, condition, category⟩ := rule
  cases category <;> simp [entryValues, optionalEntry]

theorem Outcome.isTold_result {o : Outcome} {result : Json} (h : o.result? = some result) :
    o.IsTold o.exitCode result.written := by
  cases o with
  | checked c =>
    obtain rfl := Option.some.inj h
    simp [IsTold, entryValues, exitCode]
  | evaluated c holds =>
    obtain rfl := Option.some.inj h
    simp [IsTold, entryValues, exitCode]
  | classified matched category =>
    obtain rfl := Option.some.inj h
    refine ⟨⟨matched.map fun rule => (ruleResult rule).written, ?_, ?_⟩, ?_, ?_⟩
    · cases category <;>
        simp [entryValues, optionalEntry, Function.comp_def]
    · rw [List.forall₂_map_right_iff, List.forall₂_same]
      exact fun rule _ => values_ruleResult rule
    · cases category <;> simp [entryValues, optionalEntry]
    · cases matched <;> simp [exitCode]
  | keys =>
    obtain rfl := Option.some.inj h
    simp [IsTold, exitCode, Function.comp_def]
  | verified path complaints =>
    obtain rfl := Option.some.inj h
    cases complaints <;>
      simp [IsTold, entryValues, exitCode, Function.comp_def]
  | located path => cases h
  | rules s => cases h
  | written path => cases h
  | completions shell => cases h

theorem Command.Answers.exists_result {command : Command} (h : command.Answers) {env : Environment}
    {options : Options} {o : Outcome} (ho : command.conclude env options = .ok o) :
    ∃ result, o.result? = some result := by
  cases h with
  | check spec =>
    obtain ⟨c, -, ho⟩ := bind_eq_ok.mp ho
    obtain rfl := pure_eq_ok.mp ho
    exact ⟨_, rfl⟩
  | eval spec receipt =>
    obtain ⟨c, -, ho⟩ := bind_eq_ok.mp ho
    obtain ⟨r, -, ho⟩ := bind_eq_ok.mp ho
    obtain rfl := pure_eq_ok.mp ho
    exact ⟨_, rfl⟩
  | classify receipt =>
    obtain ⟨s, -, ho⟩ := bind_eq_ok.mp ho
    obtain ⟨r, -, ho⟩ := bind_eq_ok.mp ho
    obtain rfl := pure_eq_ok.mp ho
    exact ⟨_, rfl⟩
  | keys =>
    obtain rfl := pure_eq_ok.mp ho
    exact ⟨_, rfl⟩
  | verify =>
    obtain ⟨path, -, ho⟩ := bind_eq_ok.mp ho
    obtain ⟨complaints, -, ho⟩ := bind_eq_ok.mp ho
    obtain rfl := pure_eq_ok.mp ho
    exact ⟨_, rfl⟩

/-! ## The line -/

theorem exists_line (key : String) (value : Json) :
    ∃ line, envelope key value = line ++ "\n" ∧ '\n' ∉ line.toList ∧
      Written.ofText? line =
        some (.object [("jsonrpc", .string "2.0"), (key, value.written), ("id", .null)]) := by
  refine ⟨_, rfl, newline_notMem_compact _, ?_⟩
  rw [Written.ofText?_compact]
  simp [written, writtenEntries]

/-- A misspelled key inside a list of conditions. -/
def misspelledCheck : Invocation where
  command := .check (.text "\x7b$and: [\x7bamuont: []\x7d]\x7d")
  options := { json := true }

end ReceiptRules

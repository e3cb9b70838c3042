import ReceiptRules.Proofs.Json.Entries
import ReceiptRules.Proofs.Reading.Record

/-!
# Trees of texts and their values

A rule file is read from the tree of its text, and verified on its JSON value. The lemmas below say what
a reader of the tree finds in terms of the value: entries, lists, strings and truth values are the same
in both, but numbers are not, since infinities and results that are no numbers become null.
-/

namespace ReceiptRules

open Document

/-! ## Simple values -/

section
variable {ν : Type} [Document ν] {α : Type} {v : ν}

theorem readString_eq_ok_iff {s : String} : readString v = .ok s ↔ view v = .ok (.string s) := by
  simp only [readString, bind_eq_ok, look_eq_ok]
  constructor
  · intro h
    rcases h with ⟨w, hw, h⟩
    cases w with
    | string t =>
      obtain rfl := pure_eq_ok.mp h
      exact hw
    | _ => cases h
  · exact fun h => ⟨_, h, rfl⟩

theorem readBool_eq_ok_iff {b : Bool} : readBool v = .ok b ↔ view v = .ok (.bool b) := by
  simp only [readBool, bind_eq_ok, look_eq_ok]
  constructor
  · intro h
    rcases h with ⟨w, hw, h⟩
    cases w with
    | bool c =>
      obtain rfl := pure_eq_ok.mp h
      exact hw
    | _ => cases h
  · exact fun h => ⟨_, h, rfl⟩

theorem readList_eq_ok_iff {read : ν → Except ReadError α} {xs : List α} :
    readList read v = .ok xs ↔
      ∃ items, view v = .ok (.array items) ∧ List.Forall₂ (fun w x => read w = .ok x) items xs := by
  simp only [readList, bind_eq_ok, look_eq_ok]
  constructor
  · intro h
    rcases h with ⟨w, hw, h⟩
    cases w with
    | array items => exact ⟨items, hw, mapM_eq_ok.mp h⟩
    | _ => cases h
  · intro h
    rcases h with ⟨items, hw, h⟩
    exact ⟨_, hw, mapM_eq_ok.mpr h⟩

end

/-! ## Values of trees -/

namespace Json5.Node

/-- The values under a key of an object, in their order. -/
def values (key : String) : Node → List Node
  | object entries => valuesUnder key (entries.map fun (k, v) => (decodeString k, v))
  | _ => []

variable {n : Node} {j : Json} {key : String}

/-- The forms of a tree with those of its value. -/
inductive Shape : Node → Json → Prop
  | null : Shape null .null
  | bool (b : Bool) : Shape (bool b) (.bool b)
  | number {text : List Char} {j : Json} (hj : j = .null ∨ ∃ m, j = .number m) : Shape (number text) j
  | string {components : List Component} {s : String} (hs : decodeString components = .ok s) :
      Shape (string components) (.string s)
  | array {items : List Node} {js : List Json} (hjs : itemsToJson items = .ok js) :
      Shape (array items) (.array js)
  | object {entries : List (List Component × Node)} {es : List (String × Json)}
      (hes : entriesToJson entries = .ok es) : Shape (object entries) (Json.ofEntries es)

theorem numberValue_eq_ok {text : List Char} (h : numberValue text = .ok j) :
    j = .null ∨ ∃ m, j = .number m := by
  have hfloat : ∀ x, Json.ofFloat x = .null ∨ ∃ m, Json.ofFloat x = .number m := by
    intro x
    by_cases hx : x.isFinite = true <;> simp [Json.ofFloat, hx]
  have hint : ∀ i, Json.ofInt i = .null ∨ ∃ m, Json.ofInt i = .number m := by
    intro i
    by_cases hi : FitsInteger i <;> simp [Json.ofInt, hi, hfloat]
  simp only [numberValue] at h
  split at h
  · obtain ⟨i, -, rfl⟩ := map_eq_ok.mp h
    exact hint i
  · obtain ⟨x, -, rfl⟩ := map_eq_ok.mp h
    exact hfloat x

theorem shape_of_toJson (h : n.toJson = .ok j) : Shape n j := by
  cases n with
  | null =>
    cases h
    exact .null
  | bool b =>
    cases h
    exact .bool b
  | number text => exact .number (numberValue_eq_ok h)
  | string components =>
    obtain ⟨s, hs, rfl⟩ := map_eq_ok.mp h
    exact .string hs
  | array items =>
    obtain ⟨js, hjs, rfl⟩ := map_eq_ok.mp h
    exact .array hjs
  | object entries =>
    obtain ⟨es, hes, rfl⟩ := map_eq_ok.mp h
    exact .object hes

/-- The forms of a tree with what a reader sees of it. A number is seen as a number, whatever its value
is. -/
inductive Seen : Node → View Node → Prop
  | null : Seen null .null
  | bool (b : Bool) : Seen (bool b) (.bool b)
  | integer (text : List Char) (i : ℤ) : Seen (number text) (.integer i)
  | float (text : List Char) (x : Float) : Seen (number text) (.float x)
  | string {components : List Component} {s : String} (hs : decodeString components = .ok s) :
      Seen (string components) (.string s)
  | array (items : List Node) : Seen (array items) (.array items)
  | object (entries : List (List Component × Node)) :
      Seen (object entries) (.object (entries.map fun (k, v) => (decodeString k, v)))

theorem seen_of_view {w : View Node} (h : Document.view n = .ok w) : Seen n w := by
  cases n with
  | null =>
    cases h
    exact .null
  | bool b =>
    cases h
    exact .bool b
  | number text =>
    change viewOfNumber text = .ok w at h
    rw [viewOfNumber] at h
    split at h
    · obtain ⟨i, -, rfl⟩ := map_eq_ok.mp h
      exact .integer text i
    · obtain ⟨x, -, rfl⟩ := map_eq_ok.mp h
      exact .float text x
  | string components =>
    obtain ⟨s, hs, rfl⟩ := map_eq_ok.mp h
    exact .string hs
  | array items =>
    cases h
    exact .array items
  | object entries =>
    cases h
    exact .object entries

theorem view_eq_bool_iff {b : Bool} : Document.view n = .ok (.bool b) ↔ n = bool b := by
  constructor
  · intro h
    cases seen_of_view h
    rfl
  · intro h
    rw [h]
    rfl

theorem view_eq_array_iff {items : List Node} :
    Document.view n = .ok (.array items) ↔ n = array items := by
  constructor
  · intro h
    cases seen_of_view h
    rfl
  · intro h
    rw [h]
    rfl

theorem eq_object_of_view {entries : List (Except Error String × Node)}
    (h : Document.view n = .ok (.object entries)) :
    ∃ es, n = object es ∧ entries = es.map fun (k, v) => (decodeString k, v) := by
  cases seen_of_view h with
  | object es => exact ⟨es, rfl, rfl⟩

theorem object_or_array_of_read {σ : Type} {r : Record Node σ} {initial s : σ}
    (h : r.read initial n = .ok s) : (∃ es, n = object es) ∨ ∃ items, n = array items := by
  rcases Record.view_of_read h with ⟨entries, hv⟩ | ⟨items, hv⟩
  · obtain ⟨es, hn, -⟩ := eq_object_of_view hv
    exact .inl ⟨es, hn⟩
  · exact .inr ⟨items, view_eq_array_iff.mp hv⟩

/-- A tree is seen as a string or a truth value exactly if that is its value. -/
theorem view_eq_iff (h : n.toJson = .ok j) :
    (∀ s, Document.view n = .ok (.string s) ↔ j = .string s) ∧
      ∀ b, Document.view n = .ok (.bool b) ↔ j = .bool b := by
  cases shape_of_toJson h with
  | @string components t ht =>
    have hview : Document.view (string components) = .ok (.string t) := by
      change (decodeString components).map View.string = _
      rw [ht]
      rfl
    simp [hview]
  | @number text _ hj =>
    have hstring : ∀ s, Document.view (number text) ≠ .ok (.string s) := by
      intro s hs
      cases seen_of_view hs
    have hbool : ∀ b, Document.view (number text) ≠ .ok (.bool b) := by
      intro b hb
      cases seen_of_view hb
    obtain rfl | ⟨m, rfl⟩ := hj <;> simp [hstring, hbool]
  | _ => simp [Document.view, viewOfNode, Json.ofEntries]

theorem map_toJson_of_items {items : List Node} {js : List Json} (h : itemsToJson items = .ok js) :
    items.map toJson = js.map .ok := by
  induction items generalizing js with
  | nil =>
    cases h
    rfl
  | cons item items ih =>
    simp only [itemsToJson, bind_eq_ok, pure_eq_ok] at h
    obtain ⟨j, hj, js, hjs, rfl⟩ := h
    rw [List.map_cons, List.map_cons, hj, ih hjs]

/-- The values under a key of a tree are those under the key in the entries of its value. -/
theorem map_toJson_of_entries {entries : List (List Component × Node)} {es : List (String × Json)}
    (h : entriesToJson entries = .ok es) :
    ((object entries).values key).map toJson = (Json.entryValues key es).map .ok := by
  induction entries generalizing es with
  | nil =>
    cases h
    rfl
  | cons e entries ih =>
    obtain ⟨k, v⟩ := e
    simp only [entriesToJson, bind_eq_ok, pure_eq_ok] at h
    obtain ⟨k', hk, j, hj, es, hes, rfl⟩ := h
    have hrest := ih hes
    simp only [values, List.map_cons, hk] at hrest ⊢
    by_cases h : k' = key
    · subst h
      rw [valuesUnder_cons_self, Json.entryValues_cons_self, List.map_cons, List.map_cons, hrest, hj]
    · rw [valuesUnder_cons_of_ne h, Json.entryValues_cons_of_ne h, hrest]

/-- What the value of a tree holds under a key is the value of the last of the nodes there. -/
theorem getLast?_values (h : n.toJson = .ok j) (key : String) :
    (n.values key).getLast?.map toJson = (j.get? key).map .ok := by
  cases shape_of_toJson h with
  | object hes =>
    rw [Json.get?_ofEntries, ← List.getLast?_map, ← List.getLast?_map, map_toJson_of_entries hes]
  | number hj => obtain rfl | ⟨m, rfl⟩ := hj <;> rfl
  | _ => rfl

theorem get?_eq_none_iff (h : n.toJson = .ok j) : j.get? key = none ↔ n.values key = [] := by
  rw [← List.getLast?_eq_none_iff, ← Option.map_eq_none_iff (f := toJson), getLast?_values h key,
    Option.map_eq_none_iff]

theorem get?_of_values {v : Node} (h : n.toJson = .ok j) (hv : n.values key = [v]) :
    ∃ w, v.toJson = .ok w ∧ j.get? key = some w := by
  have hlast := getLast?_values h key
  rw [hv, List.getLast?_singleton, Option.map_some, eq_comm, Option.map_eq_some_iff] at hlast
  obtain ⟨w, hw, hvalue⟩ := hlast
  exact ⟨w, hvalue.symm, hw⟩

/-- In a tree with a value, keys and all that stands under them have values. -/
theorem exists_of_mem_entries {entries : List (List Component × Node)} {es : List (String × Json)}
    (h : entriesToJson entries = .ok es) :
    ∀ e ∈ entries, ∃ k w, decodeString e.1 = .ok k ∧ e.2.toJson = .ok w := by
  induction entries generalizing es with
  | nil => simp
  | cons e entries ih =>
    simp only [entriesToJson, bind_eq_ok, pure_eq_ok] at h
    obtain ⟨k, hk, w, hw, es, hes, -⟩ := h
    rintro e' (_ | ⟨_, he'⟩)
    · exact ⟨k, w, hk, hw⟩
    · exact ih hes e' he'

theorem passes_of_toJson {σ : Type} {r : Record Node σ} {entries : List (List Component × Node)}
    (h : (object entries).toJson = .ok j) :
    ∀ e ∈ entries.map (fun e => (decodeString e.1, e.2)), r.Passes e := by
  obtain ⟨es, hes, -⟩ := map_eq_ok.mp h
  simp only [List.forall_mem_map]
  intro e he
  obtain ⟨k, w, hk, hw⟩ := exists_of_mem_entries hes e he
  exact ⟨k, hk, fun _ => ⟨w, hw⟩⟩

section
variable {P : Node → Prop} {Q : Json → Prop}

/-- A key that is written once and holds what is wanted, in a tree and in its value. -/
theorem exists_values_iff (h : n.toJson = .ok j) (hPQ : ∀ v w, v.toJson = .ok w → (P v ↔ Q w)) :
    (∃ v, n.values key = [v] ∧ P v) ↔
      (n.values key).length ≤ 1 ∧ ∃ w, j.get? key = some w ∧ Q w := by
  constructor
  · intro h'
    rcases h' with ⟨v, hv, hP⟩
    obtain ⟨w, hw, hget⟩ := get?_of_values h hv
    exact ⟨by simp [hv], w, hget, (hPQ v w hw).mp hP⟩
  · intro h'
    rcases h' with ⟨hlen, w, hget, hQ⟩
    obtain hv | ⟨v, hv⟩ := eq_nil_or_singleton hlen
    · rw [(get?_eq_none_iff h).mpr hv] at hget
      cases hget
    · obtain ⟨w', hw', hget'⟩ := get?_of_values h hv
      obtain rfl : w = w' := Option.some.inj (hget.symm.trans hget')
      exact ⟨v, hv, (hPQ v w hw').mpr hQ⟩

/-- A key that is written at most once and holds nothing but what is wanted, in a tree and in its
value. -/
theorem forall_values_iff (h : n.toJson = .ok j) (hlen : (n.values key).length ≤ 1)
    (hPQ : ∀ v ∈ n.values key, ∀ w, v.toJson = .ok w → (P v ↔ Q w)) :
    (∀ v ∈ n.values key, P v) ↔ ∀ w, j.get? key = some w → Q w := by
  obtain hv | ⟨v, hv⟩ := eq_nil_or_singleton hlen
  · simp [hv, (get?_eq_none_iff h).mpr hv]
  · obtain ⟨w, hw, hget⟩ := get?_of_values h hv
    simp [hv, hget, hPQ v (by simp [hv]) w hw]

end

end Json5.Node

/-- The values under a key of a JSON value, seen as a document. -/
theorem valuesUnder_json {key : String} {entries : List (String × Json)} :
    valuesUnder key (entries.map fun e => (.ok e.1, e.2)) = Json.entryValues key entries := by
  induction entries with
  | nil => rfl
  | cons e entries ih =>
    obtain ⟨k, v⟩ := e
    rw [List.map_cons]
    by_cases h : k = key
    · subst h
      rw [valuesUnder_cons_self, Json.entryValues_cons_self, ih]
    · rw [valuesUnder_cons_of_ne h, Json.entryValues_cons_of_ne h, ih]

end ReceiptRules

import ReceiptRules.Proofs.Decimal.JsonText
import ReceiptRules.Proofs.Json.Entries
import ReceiptRules.Proofs.Json5.NodeTokens
import ReceiptRules.Proofs.Json5.WrittenToken

/-!
# JSON values as JSON5

A value that is written as JSON, on one line or on many, is JSON5 with the tree that has the value's own
form, unless a line separator stands in one of its strings or keys (`ofText?_write`). The tree stands for
the value, unless an integer of the value takes all 64 bits (`toJson_tree`).
-/

namespace ReceiptRules

open Json5

/-- The numbers that are read as they are written: doubles, and integers of 63 bits and a sign. -/
def Number.IsSigned : Number → Prop
  | integer n _ => IsInteger64 n
  | float _ _ => True

instance : DecidablePred Number.IsSigned
  | .integer n _ => inferInstanceAs (Decidable (IsInteger64 n))
  | .float _ _ => inferInstanceAs (Decidable True)

/-- The text of a double stands for the double. -/
def Decimal.ReadsBack (x : Float) : Prop := floatValue (jsonText x).toList = .ok x

/-- The numbers whose text stands for the same double, if it stands for a double. -/
def Number.ReadsBack : Number → Prop
  | integer _ _ => True
  | float x _ => Decimal.ReadsBack x

theorem Number.numeral_text (n : Number) : Numeral n.text.toList := by
  cases n with
  | integer n _ => exact numeral_toString n
  | float x _ => exact (Decimal.numeral_jsonText x).1

/-- What the text of a number stands for. -/
theorem Number.numberValue_text {n : Number} (h : n.ReadsBack) :
    numberValue n.text.toList =
      if n.IsSigned then .ok (.number n) else .error .malformedInteger := by
  cases n with
  | integer n fits =>
    rw [text, numberValue_toString, Json.ofInt, dif_pos fits]
    rfl
  | float x finite =>
    have hvalue : floatValue (Decimal.jsonText x).toList = .ok x := h
    rw [text, numberValue, if_neg (by simp [(Decimal.numeral_jsonText x).2]), hvalue]
    simp [IsSigned, Except.map, Json.ofFloat, finite]

namespace Json

/-! ## Parts of a value -/

mutual

/-- The tree that a value is written with. -/
def tree : Json → Node
  | null => .null
  | bool b => .bool b
  | number n => .number n.text.toList
  | string s => .string (components s)
  | array items => .array (itemTrees items)
  | object entries => .object (entryTrees entries)

def itemTrees : List Json → List Node
  | [] => []
  | item :: items => item.tree :: itemTrees items

def entryTrees : List (String × Json) → List (List Component × Node)
  | [] => []
  | (key, value) :: entries => (components key, value.tree) :: entryTrees entries

end

mutual

/-- The strings and keys in a value. -/
def texts : Json → List String
  | string s => [s]
  | array items => itemTexts items
  | object entries => entryTexts entries
  | _ => []

def itemTexts : List Json → List String
  | [] => []
  | item :: items => item.texts ++ itemTexts items

def entryTexts : List (String × Json) → List String
  | [] => []
  | (key, value) :: entries => key :: value.texts ++ entryTexts entries

end

mutual

/-- The numbers in a value. -/
def numbers : Json → List Number
  | number n => [n]
  | array items => itemNumbers items
  | object entries => entryNumbers entries
  | _ => []

def itemNumbers : List Json → List Number
  | [] => []
  | item :: items => item.numbers ++ itemNumbers items

def entryNumbers : List (String × Json) → List Number
  | [] => []
  | (_, value) :: entries => value.numbers ++ entryNumbers entries

end

theorem itemTrees_eq_map (items : List Json) : itemTrees items = items.map tree := by
  induction items with
  | nil => rfl
  | cons item items ih => simp [itemTrees, ih]

theorem itemTexts_eq_flatMap (items : List Json) : itemTexts items = items.flatMap texts := by
  induction items with
  | nil => rfl
  | cons item items ih => simp [itemTexts, ih]

theorem itemNumbers_eq_flatMap (items : List Json) :
    itemNumbers items = items.flatMap numbers := by
  induction items with
  | nil => rfl
  | cons item items ih => simp [itemNumbers, ih]

/-! ## The tree of a written value -/

theorem delimited_lineBreak (depth : Option ℕ) (hrest : Delimited rest) :
    Delimited (Json.lineBreak depth ++ rest) := by
  cases depth with
  | none => exact hrest
  | some depth => exact delimited_cons rfl _

theorem delimited_writeItems (items : List Json) (depth : Option ℕ) (hrest : Delimited rest) :
    Delimited (writeItems depth items ++ rest) := by
  cases items with
  | nil => exact hrest
  | cons item items => exact delimited_cons rfl _

theorem delimited_writeEntries (entries : List (String × Json)) (depth : Option ℕ)
    (hrest : Delimited rest) : Delimited (writeEntries depth entries ++ rest) := by
  cases entries with
  | nil => exact hrest
  | cons item items => exact delimited_cons rfl _

mutual

theorem lexes_write (j : Json) (depth : Option ℕ) {rest : List Char} {r : Option (List Token)}
    (hrest : Delimited rest) (h : Lexes rest r) :
    Lexes (j.write depth ++ rest) (tokensBefore j.texts j.tree.tokens r) := by
  cases j with
  | null =>
    have hword : Lexes ('n' :: (['u', 'l', 'l'] ++ rest)) _ :=
      h.word rfl (by decide) (fun _ => rfl) rfl hrest
    simpa [write, texts, tree, Node.tokens] using hword
  | bool b =>
    cases b with
    | true =>
      have hword : Lexes ('t' :: (['r', 'u', 'e'] ++ rest)) _ :=
        h.word rfl (by decide) (fun _ => rfl) rfl hrest
      simpa [write, texts, tree, Node.tokens] using hword
    | false =>
      have hword : Lexes ('f' :: (['a', 'l', 's', 'e'] ++ rest)) _ :=
        h.word rfl (by decide) (fun _ => rfl) rfl hrest
      simpa [write, texts, tree, Node.tokens] using hword
  | number n =>
    have hnumber := h.number n.numeral_text hrest
    simpa [write, texts, tree, Node.tokens] using hnumber
  | string s =>
    have hstring := h.string s
    simpa [write, texts, tree, Node.tokens] using hstring
  | array items =>
    have hclose : Lexes (']' :: rest) _ := h.mark rfl (by decide) rfl
    cases items with
    | nil =>
      have hopen : Lexes ('[' :: ']' :: rest) _ := hclose.mark rfl (by decide) rfl
      simpa [write, texts, itemTexts, tree, itemTrees, Node.tokens, tokensBefore_tokensBefore]
        using hopen
    | cons item items =>
      have hend := delimited_lineBreak depth (delimited_cons (c := ']') rfl rest)
      have hitems := lexes_writeItems items (depth.map (· + 1)) hend (hclose.lineBreak depth)
      have hitem := lexes_write item (depth.map (· + 1)) (delimited_writeItems items _ hend) hitems
      have hopen : Lexes ('[' :: _) _ :=
        (hitem.lineBreak (depth.map (· + 1))).mark rfl (by decide) rfl
      simpa [write, texts, itemTexts, tree, itemTrees, Node.tokens, tokensBefore_tokensBefore,
        List.forall_mem_append] using hopen
  | object entries =>
    have hclose : Lexes ('\x7d' :: rest) _ := h.mark rfl (by decide) rfl
    rcases entries with _ | ⟨⟨key, value⟩, entries⟩
    · have hopen : Lexes ('\x7b' :: '\x7d' :: rest) _ := hclose.mark rfl (by decide) rfl
      simpa [write, texts, entryTexts, tree, entryTrees, Node.tokens, tokensBefore_tokensBefore]
        using hopen
    · have hend := delimited_lineBreak depth (delimited_cons (c := '\x7d') rfl rest)
      have hentries := lexes_writeEntries entries (depth.map (· + 1)) hend (hclose.lineBreak depth)
      have hvalue := lexes_write value (depth.map (· + 1)) (delimited_writeEntries entries _ hend)
        hentries
      have hopen : Lexes ('\x7b' :: _) _ :=
        (((hvalue.colon depth).string key).lineBreak (depth.map (· + 1))).mark rfl (by decide) rfl
      simpa [write, texts, entryTexts, tree, entryTrees, Node.tokens, tokensBefore_tokensBefore]
        using hopen

theorem lexes_writeItems (items : List Json) (depth : Option ℕ) {rest : List Char}
    {r : Option (List Token)} (hrest : Delimited rest) (h : Lexes rest r) :
    Lexes (writeItems depth items ++ rest)
      (tokensBefore (itemTexts items) (Node.itemTokens (itemTrees items)) r) := by
  cases items with
  | nil => simpa [writeItems, itemTexts, itemTrees, Node.itemTokens, tokensBefore] using h
  | cons item items =>
    have hitems := lexes_writeItems items depth hrest h
    have hitem := lexes_write item depth (delimited_writeItems items depth hrest) hitems
    have hcomma : Lexes (',' :: _) _ := (hitem.lineBreak depth).mark rfl (by decide) rfl
    simpa [writeItems, itemTexts, itemTrees, Node.itemTokens, tokensBefore_tokensBefore] using hcomma

theorem lexes_writeEntries (entries : List (String × Json)) (depth : Option ℕ)
    {rest : List Char} {r : Option (List Token)} (hrest : Delimited rest) (h : Lexes rest r) :
    Lexes (writeEntries depth entries ++ rest)
      (tokensBefore (entryTexts entries) (Node.entryTokens (entryTrees entries)) r) := by
  rcases entries with _ | ⟨⟨key, value⟩, entries⟩
  · simpa [writeEntries, entryTexts, entryTrees, Node.entryTokens, tokensBefore] using h
  · have hentries := lexes_writeEntries entries depth hrest h
    have hvalue := lexes_write value depth (delimited_writeEntries entries depth hrest) hentries
    have hcomma : Lexes (',' :: _) _ :=
      (((hvalue.colon depth).string key).lineBreak depth).mark rfl (by decide) rfl
    simpa [writeEntries, entryTexts, entryTrees, Node.entryTokens, tokensBefore_tokensBefore]
      using hcomma

end

/-- A written value is JSON5 if all its strings and keys are plain, with the tree of the value. -/
theorem ofText?_write (j : Json) (depth : Option ℕ) :
    Node.ofText? (String.ofList (j.write depth)) =
      if ∀ s ∈ j.texts, Plain s then some j.tree else none := by
  have h := (lexes_write j depth delimited_nil lexes_nil).tokenize?
  rw [List.append_nil] at h
  rw [Node.ofText?, String.toList_ofList, h, tokensBefore]
  split_ifs
  · simp [Node.ofTokens?_tokens]
  · rfl

/-! ## The value of the tree -/

mutual

theorem toJson_tree (j : Json) (hcanonical : j.Canonical) (hnumbers : ∀ n ∈ j.numbers, n.ReadsBack) :
    j.tree.toJson = if ∀ n ∈ j.numbers, n.IsSigned then .ok j else .error .malformedInteger := by
  cases j with
  | null => simp [tree, Node.toJson, numbers]
  | bool b => simp [tree, Node.toJson, numbers]
  | number n =>
    simp only [numbers, List.forall_mem_singleton] at hnumbers ⊢
    rw [tree, Node.toJson, Number.numberValue_text hnumbers]
  | string s => simp [tree, Node.toJson, numbers, Except.map]
  | array items =>
    rw [Canonical] at hcanonical
    rw [numbers] at hnumbers
    rw [tree, Node.toJson, itemsToJson_itemTrees items hcanonical hnumbers, numbers]
    split_ifs <;> rfl
  | object entries =>
    rw [Canonical] at hcanonical
    rw [numbers] at hnumbers
    rw [tree, Node.toJson, entriesToJson_entryTrees entries hcanonical.2 hnumbers, numbers]
    split_ifs
    · simp [Except.map, ofEntries_of_keysAscend hcanonical.1]
    · rfl

theorem itemsToJson_itemTrees (items : List Json) (hcanonical : CanonicalItems items)
    (hnumbers : ∀ n ∈ itemNumbers items, n.ReadsBack) :
    Node.itemsToJson (itemTrees items) =
      if ∀ n ∈ itemNumbers items, n.IsSigned then .ok items else .error .malformedInteger := by
  cases items with
  | nil => simp [itemTrees, Node.itemsToJson, itemNumbers]
  | cons item items =>
    rw [CanonicalItems] at hcanonical
    rw [itemNumbers, List.forall_mem_append] at hnumbers
    rw [itemTrees, Node.itemsToJson, toJson_tree item hcanonical.1 hnumbers.1,
      itemsToJson_itemTrees items hcanonical.2 hnumbers.2]
    simp only [itemNumbers, List.forall_mem_append]
    split_ifs <;> simp_all [bind, Except.bind, pure, Except.pure]

theorem entriesToJson_entryTrees (entries : List (String × Json)) (hcanonical : CanonicalEntries entries)
    (hnumbers : ∀ n ∈ entryNumbers entries, n.ReadsBack) :
    Node.entriesToJson (entryTrees entries) =
      if ∀ n ∈ entryNumbers entries, n.IsSigned then .ok entries else .error .malformedInteger := by
  rcases entries with _ | ⟨⟨key, value⟩, entries⟩
  · simp [entryTrees, Node.entriesToJson, entryNumbers]
  · rw [CanonicalEntries] at hcanonical
    rw [entryNumbers, List.forall_mem_append] at hnumbers
    rw [entryTrees, Node.entriesToJson, toJson_tree value hcanonical.1 hnumbers.1,
      entriesToJson_entryTrees entries hcanonical.2 hnumbers.2, decodeString_components]
    simp only [entryNumbers, List.forall_mem_append]
    split_ifs <;> simp_all [bind, Except.bind, pure, Except.pure]

end

/-- What the text of a value stands for. -/
theorem valueOfText_write {j : Json} (hcanonical : j.Canonical) (hnumbers : ∀ n ∈ j.numbers, n.ReadsBack)
    (depth : Option ℕ) :
    valueOfText (String.ofList (j.write depth)) =
      if ∀ s ∈ j.texts, Plain s then
        if ∀ n ∈ j.numbers, n.IsSigned then .ok j else .error .malformedInteger
      else .error .malformedText := by
  rw [valueOfText, ofText?_write]
  by_cases htexts : ∀ s ∈ j.texts, Plain s
  · rw [if_pos htexts, if_pos htexts, ← toJson_tree j hcanonical hnumbers]
  · rw [if_neg htexts, if_neg htexts]

end Json

end ReceiptRules

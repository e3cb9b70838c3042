import Mathlib.Tactic.Common
import ReceiptRules.Json5.Node

/-!
# Trees and their tokens

`Node.tokens` lists the tokens that a tree is written with if no comma stands after a last item. The tree is
read back from them (`ofTokens?_tokens`), with the fuel that the number of tokens gives.
-/

namespace ReceiptRules.Json5

/-- A name without escapes. -/
def Token.word (cs : List Char) : Token := .name (cs.map .literal)

namespace Node

mutual

/-- The tokens of a tree. -/
def tokens : Node → List Token
  | null => [.word ['n', 'u', 'l', 'l']]
  | bool true => [.word ['t', 'r', 'u', 'e']]
  | bool false => [.word ['f', 'a', 'l', 's', 'e']]
  | number text => [.number text]
  | string components => [.string components]
  | array [] => [.openBracket, .closeBracket]
  | array (item :: items) => .openBracket :: item.tokens ++ itemTokens items ++ [.closeBracket]
  | object [] => [.openBrace, .closeBrace]
  | object ((key, value) :: entries) =>
    .openBrace :: .string key :: .colon :: value.tokens ++ entryTokens entries ++ [.closeBrace]

/-- The tokens of the further items of an array. -/
def itemTokens : List Node → List Token
  | [] => []
  | item :: items => .comma :: item.tokens ++ itemTokens items

/-- The tokens of the further entries of an object. -/
def entryTokens : List (List Component × Node) → List Token
  | [] => []
  | (key, value) :: entries =>
    .comma :: .string key :: .colon :: value.tokens ++ entryTokens entries

end

/-- No tree starts with the mark at the end of an array. -/
theorem exists_tokens_cons (n : Node) :
    ∃ t ts, n.tokens = t :: ts ∧ t ≠ .closeBracket := by
  cases n with
  | null => exact ⟨_, _, by rw [tokens], by decide⟩
  | bool b => cases b <;> exact ⟨_, _, by rw [tokens], by decide⟩
  | number text => exact ⟨.number text, _, by rw [tokens], nofun⟩
  | string components => exact ⟨.string components, _, by rw [tokens], nofun⟩
  | array items => cases items <;> simp [tokens]
  | object entries => rcases entries with _ | ⟨⟨key, value⟩, entries⟩ <;> simp [tokens]

theorem length_tokens_pos (n : Node) : 0 < n.tokens.length := by
  obtain ⟨t, ts, heq, -⟩ := n.exists_tokens_cons
  simp [heq]

end Node

/-! ## Steps of the reader -/

section

variable {fuel : ℕ} {t : Token} {ts rest : List Token}

theorem readValue?_openBracket (h : t ≠ .closeBracket) :
    readValue? (fuel + 1) (.openBracket :: t :: ts) =
      (readItems? fuel (t :: ts)).map fun (items, rest) => (.array items, rest) := by
  cases hread : readItems? fuel (t :: ts) <;> cases t <;> simp_all [readValue?]

theorem readValue?_openBrace {key : List Component} :
    readValue? (fuel + 1) (.openBrace :: .string key :: ts) =
      (readEntries? fuel (.string key :: ts)).map fun (entries, rest) => (.object entries, rest) := by
  cases hread : readEntries? fuel (.string key :: ts) <;> simp [readValue?, hread]

theorem readItems?_last {item : Node} (h : readValue? fuel ts = some (item, .closeBracket :: rest)) :
    readItems? (fuel + 1) ts = some ([item], rest) := by
  simp [readItems?, h]

theorem readItems?_more {item : Node} (h : readValue? fuel ts = some (item, .comma :: t :: rest))
    (ht : t ≠ .closeBracket) :
    readItems? (fuel + 1) ts =
      (readItems? fuel (t :: rest)).map fun (items, rest) => (item :: items, rest) := by
  cases hread : readItems? fuel (t :: rest) <;> cases t <;> simp_all [readItems?]

theorem readEntries?_last {key : List Component} {value : Node}
    (h : readValue? fuel ts = some (value, .closeBrace :: rest)) :
    readEntries? (fuel + 1) (.string key :: .colon :: ts) = some ([(key, value)], rest) := by
  simp [readEntries?, h]

theorem readEntries?_more {key next : List Component} {value : Node}
    (h : readValue? fuel ts = some (value, .comma :: .string next :: rest)) :
    readEntries? (fuel + 1) (.string key :: .colon :: ts) =
      (readEntries? fuel (.string next :: rest)).map fun (entries, rest) =>
        ((key, value) :: entries, rest) := by
  cases hread : readEntries? fuel (.string next :: rest) <;> simp [readEntries?, h, hread]

end

/-! ## Reading back -/

namespace Node

/-- What is read with some fuel: values, the items of an array after its bracket, and the entries of an
object after its brace. -/
structure ReadsBack (fuel : ℕ) : Prop where
  value (n : Node) (rest : List Token) (h : 2 * n.tokens.length ≤ fuel + 1) :
    readValue? fuel (n.tokens ++ rest) = some (n, rest)
  items (item : Node) (items : List Node) (rest : List Token)
    (h : 2 * (item.tokens.length + (itemTokens items).length) ≤ fuel) :
    readItems? fuel (item.tokens ++ (itemTokens items ++ .closeBracket :: rest)) =
      some (item :: items, rest)
  entries (key : List Component) (value : Node) (entries : List (List Component × Node))
    (rest : List Token) (h : 2 * (value.tokens.length + (entryTokens entries).length) ≤ fuel) :
    readEntries? fuel
        (.string key :: .colon :: (value.tokens ++ (entryTokens entries ++ .closeBrace :: rest))) =
      some ((key, value) :: entries, rest)

theorem readsBack (fuel : ℕ) : ReadsBack fuel := by
  induction fuel with
  | zero =>
    constructor
    · intro n rest h
      have := n.length_tokens_pos
      omega
    · intro item items rest h
      have := item.length_tokens_pos
      omega
    · intro key value entries rest h
      have := value.length_tokens_pos
      omega
  | succ fuel ih =>
    constructor
    · intro n rest h
      cases n with
      | null => rw [tokens]; rfl
      | bool b => cases b <;> · rw [tokens]; rfl
      | number text => rw [tokens]; rfl
      | string components => rw [tokens]; rfl
      | array items =>
        cases items with
        | nil => rw [tokens]; rfl
        | cons item items =>
          obtain ⟨t, ts, heq, ht⟩ := item.exists_tokens_cons
          rw [tokens] at h ⊢
          have hitems := ih.items item items rest (by simp at h; omega)
          simp only [heq, List.cons_append, List.append_assoc, List.nil_append] at hitems ⊢
          rw [readValue?_openBracket ht, hitems]
          rfl
      | object entries =>
        rcases entries with _ | ⟨⟨key, value⟩, entries⟩
        · rw [tokens]; rfl
        · rw [tokens] at h ⊢
          have hentries := ih.entries key value entries rest (by simp at h; omega)
          simp only [List.cons_append, List.append_assoc, List.nil_append]
          rw [readValue?_openBrace, hentries]
          rfl
    · intro item items rest h
      have hpos := item.length_tokens_pos
      have hitem := fun rest => ih.value item rest (by omega)
      cases items with
      | nil => exact readItems?_last (hitem _)
      | cons next items =>
        obtain ⟨t, ts, heq, ht⟩ := next.exists_tokens_cons
        rw [itemTokens] at h ⊢
        have hitems := ih.items next items rest (by simp at h; omega)
        simp only [heq, List.cons_append, List.append_assoc] at hitems ⊢
        rw [readItems?_more (hitem _) ht, hitems]
        rfl
    · intro key value entries rest h
      have hpos := value.length_tokens_pos
      have hvalue := fun rest => ih.value value rest (by omega)
      rcases entries with _ | ⟨⟨k, v⟩, entries⟩
      · exact readEntries?_last (hvalue _)
      · rw [entryTokens] at h ⊢
        have hentries := ih.entries k v entries rest (by simp at h; omega)
        simp only [List.cons_append, List.append_assoc]
        rw [readEntries?_more (hvalue _), hentries]
        rfl

/-- A tree is read back from its tokens. -/
theorem ofTokens?_tokens (n : Node) : ofTokens? n.tokens = some n := by
  have h := (readsBack (2 * n.tokens.length + 1)).value n [] (by omega)
  rw [List.append_nil] at h
  simp [ofTokens?, h]

end Node

end ReceiptRules.Json5

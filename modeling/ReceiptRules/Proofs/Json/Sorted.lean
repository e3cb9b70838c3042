import Mathlib.Tactic.Common
import ReceiptRules.Proofs.Json.Entries

/-!
# Sorted JSON values

A value that is built in memory keeps the entries of its objects by ascending keys, and not in the order
in which they were written: `Json.sorted`. A rearrangement, `Json.Rearranges`, changes no more than the
order of entries with different keys, so that a reader that looks entries up by their keys finds the same
in both.
-/

namespace ReceiptRules.Json

mutual

/-- The value with the entries of every object in it by ascending keys; of several with one key the last
counts. -/
def sorted : Json → Json
  | array items => array (sortedItems items)
  | object entries => ofEntries (sortedEntries entries)
  | j => j

def sortedItems : List Json → List Json
  | [] => []
  | item :: items => sorted item :: sortedItems items

def sortedEntries : List (String × Json) → List (String × Json)
  | [] => []
  | (key, value) :: entries => (key, sorted value) :: sortedEntries entries

end

/-- A way to write values anew that may change the order of entries, and nothing else as long as no key
occurs twice. -/
structure Rearranges (w : Json → Json) : Prop where
  null : w null = null
  number : ∀ n, w (number n) = number n
  string : ∀ s, w (string s) = string s
  array : ∀ items, w (array items) = array (items.map w)
  object : ∀ entries, (∀ key, (entryValues key entries).length ≤ 1) →
    ∃ entries', w (object entries) = object entries' ∧
      ∀ key, entryValues key entries' = (entryValues key entries).map w

theorem rearranges_id : Rearranges id where
  null := rfl
  number _ := rfl
  string _ := rfl
  array := by simp
  object entries _ := ⟨entries, rfl, by simp⟩

theorem sortedItems_eq_map (items : List Json) : sortedItems items = items.map sorted := by
  induction items with
  | nil => rw [sortedItems, List.map_nil]
  | cons item items ih => rw [sortedItems, ih, List.map_cons]

theorem entryValues_sortedEntries (key : String) (entries : List (String × Json)) :
    entryValues key (sortedEntries entries) = (entryValues key entries).map sorted := by
  induction entries with
  | nil => simp [sortedEntries, entryValues]
  | cons e entries ih =>
    obtain ⟨k, v⟩ := e
    rw [sortedEntries]
    by_cases h : k = key
    · subst h
      rw [entryValues_cons_self, entryValues_cons_self, ih, List.map_cons]
    · rw [entryValues_cons_of_ne h, entryValues_cons_of_ne h, ih]

/-- With at most one value under each key, making an object changes no values. -/
theorem exists_ofEntries_eq {entries : List (String × Json)}
    (h : ∀ key, (entryValues key entries).length ≤ 1) :
    ∃ entries', ofEntries entries = object entries' ∧
      ∀ key, entryValues key entries' = entryValues key entries := by
  refine ⟨_, rfl, fun key => ?_⟩
  have hlast : (ofEntries entries).get? key = (entryValues key entries).getLast? := get?_ofEntries
  rw [ofEntries, get?] at hlast
  rw [entryValues_eq_toList (keysAscend_foldl_insertEntry (by simp [KeysAscend]) entries), hlast]
  have hlength := h key
  rcases hvalues : entryValues key entries with _ | ⟨v, _ | _⟩
  · rfl
  · rfl
  · simp [hvalues] at hlength

theorem rearranges_sorted : Rearranges sorted where
  null := by simp [sorted]
  number n := by simp [sorted]
  string s := by simp [sorted]
  array items := by rw [sorted, sortedItems_eq_map]
  object := by
    intro entries h
    obtain ⟨entries', heq, hvalues⟩ := @exists_ofEntries_eq (sortedEntries entries) (by
      simpa [entryValues_sortedEntries] using h)
    refine ⟨entries', by rw [sorted, heq], fun key => ?_⟩
    rw [hvalues, entryValues_sortedEntries]

end ReceiptRules.Json

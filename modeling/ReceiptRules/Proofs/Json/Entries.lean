import Mathlib.Data.List.Basic
import Mathlib.Data.String.Basic
import ReceiptRules.Json.Basic

/-!
# Entries of JSON objects

An object that is made from entries has ascending keys, and under each key the last of the values that
were written under it.
-/

namespace ReceiptRules.Json

variable {key k : String} {value v : Json} {entries : List (String × Json)}

theorem lookup_cons :
    ((key, value) :: entries).lookup k = if k = key then some value else entries.lookup k := by
  rw [List.lookup_cons]
  by_cases h : k = key
  · simp [h]
  · rw [if_neg h, beq_eq_false_iff_ne.mpr h]

/-- Putting in an entry changes what is found under its key, and nothing else. -/
theorem lookup_insertEntry :
    (insertEntry key value entries).lookup k = if k = key then some value else entries.lookup k := by
  induction entries with
  | nil => exact lookup_cons
  | cons e rest ih =>
    obtain ⟨k', v⟩ := e
    rw [insertEntry]
    by_cases hlt : key < k'
    · rw [if_pos hlt, lookup_cons]
    · by_cases heq : key = k'
      · subst heq
        rw [if_neg hlt, if_pos rfl, lookup_cons, lookup_cons]
        by_cases h : k = key <;> simp [h]
      · rw [if_neg hlt, if_neg heq, lookup_cons, lookup_cons, ih]
        by_cases h : k = key
        · subst h
          simp [heq]
        · simp [h]

theorem mem_insertEntry {e : String × Json} (h : e ∈ insertEntry key value entries) :
    e = (key, value) ∨ e ∈ entries := by
  induction entries with
  | nil => simpa [insertEntry] using h
  | cons e' rest ih =>
    obtain ⟨k', v⟩ := e'
    rw [insertEntry] at h
    split_ifs at h with hlt heq
    · simpa using h
    · rcases List.mem_cons.mp h with rfl | h
      · exact .inl rfl
      · exact .inr (List.mem_cons_of_mem _ h)
    · rcases List.mem_cons.mp h with rfl | h
      · exact .inr List.mem_cons_self
      · exact (ih h).imp id (List.mem_cons_of_mem _)

theorem keysAscend_cons :
    KeysAscend ((key, value) :: entries) ↔ (∀ e ∈ entries, key < e.1) ∧ KeysAscend entries := by
  simp [KeysAscend]

theorem KeysAscend.nodup (h : KeysAscend entries) : (entries.map Prod.fst).Nodup :=
  h.imp ne_of_lt

theorem canonicalEntries_iff : CanonicalEntries entries ↔ ∀ e ∈ entries, e.2.Canonical := by
  induction entries with
  | nil => simp [CanonicalEntries]
  | cons e rest ih => rw [CanonicalEntries, ih, List.forall_mem_cons]

theorem keys_nodup_of_canonical {j : Json} (hj : j.Canonical) :
    ∀ entries, j = object entries → (entries.map Prod.fst).Nodup := by
  rintro entries rfl
  rw [Canonical] at hj
  exact hj.1.nodup

theorem keysAscend_insertEntry (h : KeysAscend entries) :
    KeysAscend (insertEntry key value entries) := by
  induction entries with
  | nil => simp [insertEntry, KeysAscend]
  | cons e rest ih =>
    obtain ⟨k', v⟩ := e
    obtain ⟨hle, hrest⟩ := keysAscend_cons.mp h
    rw [insertEntry]
    split_ifs with hlt heq
    · refine keysAscend_cons.mpr ⟨fun e he => ?_, h⟩
      rcases List.mem_cons.mp he with rfl | he
      · exact hlt
      · exact hlt.trans (hle e he)
    · subst heq
      exact keysAscend_cons.mpr ⟨hle, hrest⟩
    · refine keysAscend_cons.mpr ⟨fun e he => ?_, ih hrest⟩
      rcases mem_insertEntry he with rfl | he
      · exact lt_of_le_of_ne (not_lt.mp hlt) (Ne.symm heq)
      · exact hle e he

theorem insertEntry_of_forall_lt (h : ∀ e ∈ entries, e.1 < key) :
    insertEntry key value entries = entries ++ [(key, value)] := by
  induction entries with
  | nil => rfl
  | cons e rest ih =>
    obtain ⟨k, v⟩ := e
    obtain ⟨hk, hrest⟩ := List.forall_mem_cons.mp h
    rw [insertEntry, if_neg hk.not_gt, if_neg hk.ne', ih hrest, List.cons_append]

theorem foldl_insertEntry_of_keysAscend {added : List (String × Json)}
    (h : KeysAscend (entries ++ added)) :
    added.foldl (fun acc (key, value) => insertEntry key value acc) entries = entries ++ added := by
  induction added generalizing entries with
  | nil => simp
  | cons e added ih =>
    obtain ⟨key, value⟩ := e
    have hlt : ∀ e ∈ entries, e.1 < key := by
      rw [KeysAscend, List.map_append, List.pairwise_append] at h
      exact fun e he => h.2.2 e.1 (List.mem_map_of_mem he) key (by simp)
    have hrest := @ih (entries ++ [(key, value)]) (by simpa using h)
    rw [← insertEntry_of_forall_lt hlt] at hrest
    rw [List.foldl_cons, hrest, insertEntry_of_forall_lt hlt, List.append_assoc,
      List.singleton_append]

/-- Entries with ascending keys are the entries of the object that is made from them. -/
theorem ofEntries_of_keysAscend (h : KeysAscend entries) : ofEntries entries = object entries := by
  rw [ofEntries, foldl_insertEntry_of_keysAscend (by simpa using h), List.nil_append]

/-- The values of entries under a key, in their order. -/
def entryValues (key : String) (entries : List (String × Json)) : List Json :=
  entries.filterMap fun (k, v) => if k = key then some v else none

theorem entryValues_cons_self :
    entryValues key ((key, value) :: entries) = value :: entryValues key entries := by
  simp [entryValues]

theorem entryValues_cons_of_ne (h : key ≠ k) :
    entryValues k ((key, value) :: entries) = entryValues k entries := by
  simp [entryValues, h]

/-- With ascending keys there is one value under a key at most. -/
theorem entryValues_eq_toList (h : KeysAscend entries) :
    entryValues key entries = (entries.lookup key).toList := by
  induction entries with
  | nil => rfl
  | cons e rest ih =>
    obtain ⟨k, v⟩ := e
    obtain ⟨hle, hrest⟩ := keysAscend_cons.mp h
    rw [lookup_cons]
    by_cases hk : key = k
    · subst hk
      have hnone : entryValues key rest = [] := by
        refine List.filterMap_eq_nil_iff.mpr fun e he => ?_
        exact if_neg (hle e he).ne'
      simp [entryValues_cons_self, hnone]
    · rw [entryValues_cons_of_ne (Ne.symm hk), if_neg hk, ih hrest]

theorem keysAscend_foldl_insertEntry (h : KeysAscend entries) (added : List (String × Json)) :
    KeysAscend (added.foldl (fun acc (key, value) => insertEntry key value acc) entries) := by
  induction added generalizing entries with
  | nil => exact h
  | cons e rest ih => exact ih (keysAscend_insertEntry h)

theorem lookup_foldl_insertEntry (added : List (String × Json)) :
    (added.foldl (fun acc (key, value) => insertEntry key value acc) entries).lookup k =
      (entryValues k added).getLast?.or (entries.lookup k) := by
  induction added generalizing entries with
  | nil => simp [entryValues]
  | cons e rest ih =>
    obtain ⟨key, value⟩ := e
    rw [List.foldl_cons, ih, lookup_insertEntry]
    by_cases h : k = key
    · subst h
      cases hlast : (entryValues k rest).getLast? <;>
        simp [entryValues_cons_self, List.getLast?_cons, hlast]
    · rw [entryValues_cons_of_ne (Ne.symm h), if_neg h]

/-- Of several entries with one key the last counts. -/
theorem get?_ofEntries : (ofEntries entries).get? key = (entryValues key entries).getLast? := by
  rw [ofEntries, get?, lookup_foldl_insertEntry]
  simp

/-- An object that is made from entries has one entry only if they all have the same key; the last of
them is the one. -/
theorem exists_of_ofEntries_eq (h : ofEntries entries = object [(key, value)]) :
    (∀ e ∈ entries, e.1 = key) ∧ ∃ before, entries = before ++ [(key, value)] := by
  have hlookup : ∀ k, (entryValues k entries).getLast? = if k = key then some value else none := by
    intro k
    rw [← get?_ofEntries, h, get?, lookup_cons, List.lookup_nil]
  have hkeys : ∀ e ∈ entries, e.1 = key := by
    intro e he
    by_contra hne
    have hnone := hlookup e.1
    rw [if_neg hne, List.getLast?_eq_none_iff] at hnone
    have hmem : e.2 ∈ entryValues e.1 entries := List.mem_filterMap.mpr ⟨e, he, if_pos rfl⟩
    simp [hnone] at hmem
  refine ⟨hkeys, ?_⟩
  rcases List.eq_nil_or_concat entries with rfl | ⟨before, ⟨k, v⟩, rfl⟩
  · cases h
  · obtain rfl : k = key := hkeys (k, v) (by simp)
    have hlast : (entryValues k (before ++ [(k, v)])).getLast? = some v := by
      simp [entryValues]
    rw [List.concat_eq_append] at hlookup ⊢
    rw [hlookup, if_pos rfl, Option.some.injEq] at hlast
    exact ⟨before, by rw [hlast]⟩

end ReceiptRules.Json

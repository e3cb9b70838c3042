import ReceiptRules.Proofs.Json.Entries
import ReceiptRules.Proofs.Reading.Record

/-!
# Nulls in records

A record all of whose fields may be missing is read from the entries of an object one after the other, as
long as no key occurs twice (`Record.read_object_eq_foldlM`). If a null changes nothing in a field that
has not been read yet, the entries that are null can be left out (`Record.NullIsMissing.read_dropNulls`),
and so can the null items of a list of optional values (`mapM_readOptional_filter`).
-/

namespace ReceiptRules

open Document

namespace Json

/-- An object without its entries under some keys that are null; any other value as it is. -/
def dropNulls (keys : List String) : Json → Json
  | object entries => object (entries.filter fun e => !(keys.contains e.1 && isNull e.2))
  | j => j

/-- An array without its items that are null; any other value as it is. -/
def dropNullItems : Json → Json
  | array items => array (items.filter fun item => !isNull item)
  | j => j

/-- An object with each value changed in a way that depends on its key; any other value as it is. -/
def mapEntries (w : String → Json → Json) : Json → Json
  | object entries => object (entries.map fun e => (e.1, w e.1 e.2))
  | j => j

theorem eq_null_of_isNull {j : Json} (h : isNull j = true) : j = null := by
  cases j with
  | null => rfl
  | _ => cases h

end Json

section
variable {α : Type}

/-- The values read from a list of optional ones, with the first of them in front of the others. -/
theorem mapM_readOptional_cons (read : Json → Except ReadError α) (item : Json) (items : List Json) :
    ((item :: items).mapM (readOptional read)).map (List.filterMap id) =
      readOptional read item >>= fun a =>
        ((items.mapM (readOptional read)).map (List.filterMap id)).map (a.toList ++ ·) := by
  rw [List.mapM_cons]
  cases readOptional read item with
  | error e => rfl
  | ok a => cases a <;> cases items.mapM (readOptional read) <;> rfl

/-- Items that are null can be left out. -/
theorem mapM_readOptional_filter (read : Json → Except ReadError α) (items : List Json) :
    ((items.filter fun item => !isNull item).mapM (readOptional read)).map (List.filterMap id) =
      (items.mapM (readOptional read)).map (List.filterMap id) := by
  induction items with
  | nil => rfl
  | cons item items ih =>
    by_cases hnull : isNull item = true
    · have hread : readOptional read item = .ok none := if_pos hnull
      rw [List.filter_cons_of_neg (by simpa using hnull), ih, mapM_readOptional_cons, hread, ok_bind]
      cases (items.mapM (readOptional read)).map (List.filterMap id) <;> rfl
    · rw [List.filter_cons_of_pos (by simpa using hnull), mapM_readOptional_cons,
        mapM_readOptional_cons, ih]

end

/-- Two fields of which it does not matter which one is read first. -/
def Field.Commutes {ν σ : Type} (f g : Field ν σ) : Prop :=
  ∀ {v w s s' s''}, f.read v s = .ok s' → g.read w s = .ok s'' →
    ∃ t, g.read w s' = .ok t ∧ f.read v s'' = .ok t

namespace Record

variable {σ : Type} {r : Record Json σ} {initial s : σ} {entries : List (String × Json)}

/-- What an entry does to the fields read before it, if its key is a new one. -/
def readEntry (r : Record Json σ) (s : σ) (e : String × Json) : Except ReadError σ :=
  match r.field? e.1 with
  | some f => f.read e.2 s
  | none => .ok s

/-- Entries with keys of their own, which were not seen before, are read one after the other. -/
theorem readEntries_eq_foldlM {seen : List String} (hkeys : (entries.map Prod.fst).Nodup)
    (hseen : ∀ e ∈ entries, e.1 ∉ seen) (s : σ) :
    (r.readEntries seen s (entries.map fun e => (.ok e.1, e.2))).map Prod.snd =
      entries.foldlM r.readEntry s := by
  induction entries generalizing seen s with
  | nil => rfl
  | cons e rest ih =>
    obtain ⟨key, v⟩ := e
    obtain ⟨hkey, hrest⟩ := List.nodup_cons.mp hkeys
    obtain ⟨hnew, hseenRest⟩ := List.forall_mem_cons.mp hseen
    have hjson : readJson v = .ok v := rfl
    rw [List.map_cons, List.foldlM_cons]
    simp only [readEntries, Except.mapError, ok_bind, readEntry]
    cases hfield : r.field? key with
    | none =>
      simp only [hjson, ok_bind]
      exact ih hrest hseenRest s
    | some f =>
      have hnotSeen : seen.contains key = false := by simpa using hnew
      simp only [hnotSeen, Bool.false_eq_true, if_false]
      cases hread : f.read v s with
      | error e => rfl
      | ok s' =>
        refine ih hrest (fun e he => ?_) s'
        have hne : e.1 ≠ key := fun heq => hkey (List.mem_map.mpr ⟨e, he, heq⟩)
        simpa [hne] using hseenRest e he

theorem read_object_eq_foldlM (hoptional : ∀ f ∈ r.fields, f.required = false)
    (hkeys : (entries.map Prod.fst).Nodup) :
    r.read initial (.object entries) = entries.foldlM r.readEntry initial := by
  have hnone : ∀ seen : List String,
      (r.fields.find? fun f => f.required && !seen.contains f.name) = none := by
    intro seen
    rw [List.find?_eq_none]
    intro f hf
    simp [hoptional f hf]
  have hlook : look (Json.object entries) =
      .ok (.object (entries.map fun e => (.ok e.1, e.2))) := rfl
  have hseen : ∀ e ∈ entries, e.1 ∉ ([] : List String) := by simp
  rw [← readEntries_eq_foldlM hkeys hseen, read, hlook, ok_bind]
  simp only [hnone]
  cases r.readEntries [] initial (entries.map fun e => (.ok e.1, e.2)) <;> rfl

/-- Values that the reader cannot tell apart can stand for each other, each under its key. -/
theorem read_mapEntries (hoptional : ∀ f ∈ r.fields, f.required = false)
    (hkeys : (entries.map Prod.fst).Nodup) {w : String → Json → Json}
    (hw : ∀ e ∈ entries, ∀ s, r.readEntry s (e.1, w e.1 e.2) = r.readEntry s e) :
    r.read initial ((Json.object entries).mapEntries w) = r.read initial (.object entries) := by
  have hkeys' : ((entries.map fun e => (e.1, w e.1 e.2)).map Prod.fst).Nodup := by
    simpa [Function.comp_def] using hkeys
  rw [Json.mapEntries, read_object_eq_foldlM hoptional hkeys', read_object_eq_foldlM hoptional hkeys,
    List.foldlM_map]
  clear hkeys hkeys'
  induction entries generalizing initial with
  | nil => rfl
  | cons e rest ih =>
    obtain ⟨he, hrest⟩ := List.forall_mem_cons.mp hw
    rw [List.foldlM_cons, List.foldlM_cons, he]
    exact bind_congr fun s => ih hrest

/-- Records in which a null is as good as a missing entry: no field is needed, the order in which fields
are read does not matter, and a null changes nothing in a field until that field is read. -/
structure NullIsMissing (r : Record Json σ) (initial : σ) : Prop where
  optional : ∀ f ∈ r.fields, f.required = false
  initial : ∀ f ∈ r.fields, f.read .null initial = .ok initial
  commute : ∀ f ∈ r.fields, ∀ g ∈ r.fields, f.name ≠ g.name → f.Commutes g

/-- A null under the key changes nothing. -/
def Untouched (r : Record Json σ) (key : String) (s : σ) : Prop :=
  ∀ f, r.field? key = some f → f.read .null s = .ok s

theorem NullIsMissing.untouched (h : r.NullIsMissing initial) (key : String) :
    r.Untouched key initial :=
  fun f hf => h.initial f (name_of_field? hf).1

/-- An entry leaves the fields of all other keys untouched. -/
theorem NullIsMissing.untouched_readEntry (h : r.NullIsMissing initial) {e : String × Json} {s' : σ}
    {key : String} (hread : r.readEntry s e = .ok s') (hkey : e.1 ≠ key) (hs : r.Untouched key s) :
    r.Untouched key s' := by
  intro g hg
  rw [readEntry] at hread
  cases hfield : r.field? e.1 with
  | none =>
    rw [hfield] at hread
    cases hread
    exact hs g hg
  | some f =>
    rw [hfield] at hread
    obtain ⟨hf, hname⟩ := name_of_field? hfield
    obtain ⟨hgmem, hgname⟩ := name_of_field? hg
    obtain ⟨t, hnull, ht⟩ := h.commute f hf g hgmem (by rwa [hname, hgname]) hread (hs g hg)
    obtain rfl : s' = t := Except.ok.inj (hread.symm.trans ht)
    exact hnull

theorem readEntry_null {e : String × Json} (hnull : isNull e.2 = true) (hs : r.Untouched e.1 s) :
    r.readEntry s e = .ok s := by
  obtain ⟨key, v⟩ := e
  obtain rfl := Json.eq_null_of_isNull hnull
  rw [readEntry]
  cases hfield : r.field? key with
  | none => rfl
  | some f => exact hs f hfield

/-- Along the entries the fields of all keys to come stay untouched, so each null can be left out. -/
theorem NullIsMissing.foldlM_filter (h : r.NullIsMissing initial) (keys : List String)
    (hkeys : (entries.map Prod.fst).Nodup) (hs : ∀ e ∈ entries, r.Untouched e.1 s) :
    (entries.filter fun e => !(keys.contains e.1 && isNull e.2)).foldlM r.readEntry s =
      entries.foldlM r.readEntry s := by
  induction entries generalizing s with
  | nil => rfl
  | cons e rest ih =>
    obtain ⟨hkey, hrest⟩ := List.nodup_cons.mp hkeys
    obtain ⟨hnow, hlater⟩ := List.forall_mem_cons.mp hs
    rw [List.foldlM_cons]
    by_cases hdrop : e.1 ∈ keys ∧ isNull e.2 = true
    · rw [List.filter_cons_of_neg (by simpa using hdrop), readEntry_null hdrop.2 hnow, ok_bind]
      exact ih hrest hlater
    · rw [List.filter_cons_of_pos (by simpa [imp_iff_not_or] using hdrop), List.foldlM_cons]
      cases hread : r.readEntry s e with
      | error x => rfl
      | ok s' =>
        refine ih hrest fun e' he' => h.untouched_readEntry hread ?_ (hlater e' he')
        exact fun heq => hkey (heq ▸ List.mem_map_of_mem he')

/-- Entries that are null can be left out. -/
theorem NullIsMissing.read_dropNulls (h : r.NullIsMissing initial) (keys : List String) {j : Json}
    (hkeys : ∀ entries, j = .object entries → (entries.map Prod.fst).Nodup) :
    r.read initial (j.dropNulls keys) = r.read initial j := by
  cases j with
  | object entries =>
    have hnodup := hkeys entries rfl
    have hfilter : ((entries.filter fun e => !(keys.contains e.1 && isNull e.2)).map Prod.fst).Nodup :=
      hnodup.sublist (List.filter_sublist.map Prod.fst)
    rw [Json.dropNulls, read_object_eq_foldlM h.optional hfilter,
      read_object_eq_foldlM h.optional hnodup]
    exact h.foldlM_filter keys hnodup fun e _ => h.untouched e.1
  | _ => rfl

end Record

end ReceiptRules

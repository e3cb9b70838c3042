import ReceiptRules.Proofs.Reading.Record

/-!
# Records with another value in a field

Two values that a field reads alike can stand for each other in an object and in a list: the record is
read alike, or refused for the same reason (`Record.read_object_congr`, `Record.read_array_congr`).
-/

namespace ReceiptRules

open Document

variable {ν σ β : Type}

namespace Record

variable {r : Record ν σ} {key : String} {f : Field ν σ} {v v' w w' : ν}

theorem readItems_congr {fields fields' : List (Field ν σ)} {before : List ν}
    (hlen : fields.length = before.length) (h : ∀ s, f.read v s = f.read v' s) (after : List ν)
    (index : ℕ) (s : σ) :
    r.readItems index s (fields ++ f :: fields') (before ++ v :: after) =
      r.readItems index s (fields ++ f :: fields') (before ++ v' :: after) := by
  induction fields generalizing before index s with
  | nil =>
    obtain rfl := List.length_eq_zero_iff.mp hlen.symm
    simp only [List.nil_append, readItems, h]
  | cons g fields ih =>
    obtain ⟨w, before, rfl⟩ := List.exists_cons_of_length_eq_add_one hlen.symm
    simp only [List.cons_append, readItems, ih (Nat.succ.inj hlen)]

/-- A part that none of the fields changes is as it was before. -/
theorem readItems_frame {part : σ → β} {fields : List (Field ν σ)} {items surplus : List ν}
    {index : ℕ} {s s' : σ}
    (hpart : ∀ f ∈ fields, ∀ v s s', f.read v s = .ok s' → part s' = part s)
    (h : r.readItems index s fields items = .ok (surplus, s')) : part s' = part s := by
  induction fields generalizing items index s with
  | nil =>
    simp only [readItems, Except.ok.injEq, Prod.mk.injEq] at h
    rw [h.2]
  | cons f fields ih =>
    obtain ⟨hf, hfields⟩ := List.forall_mem_cons.mp hpart
    cases items with
    | nil =>
      rw [readItems] at h
      split at h
      · cases h
      · exact ih hfields h
    | cons v items =>
      rw [readItems, bind_eq_ok] at h
      obtain ⟨s₁, hread, h⟩ := h
      rw [ih hfields h, hf v s s₁ hread]

variable [Document ν]

/-- Values that the field under a key reads alike can stand for each other. -/
theorem readEntries_congr (hf : r.field? key = some f) (h : ∀ s, f.read v s = f.read v' s)
    (before after : List (Except Json5.Error String × ν)) (seen : List String) (s : σ) :
    r.readEntries seen s (before ++ (.ok key, v) :: after) =
      r.readEntries seen s (before ++ (.ok key, v') :: after) := by
  induction before generalizing seen s with
  | nil => simp only [List.nil_append, readEntries, Except.mapError, ok_bind, hf, h]
  | cons e before ih =>
    obtain ⟨k, w⟩ := e
    simp only [List.cons_append, readEntries, ih]

theorem read_object_congr (hf : r.field? key = some f) (h : ∀ s, f.read v s = f.read v' s)
    {before after : List (Except Json5.Error String × ν)}
    (hw : view w = .ok (.object (before ++ (.ok key, v) :: after)))
    (hw' : view w' = .ok (.object (before ++ (.ok key, v') :: after))) (initial : σ) :
    r.read initial w = r.read initial w' := by
  simp only [read, look_eq_ok.mpr hw, look_eq_ok.mpr hw', ok_bind, readEntries_congr hf h]

theorem read_array_congr (fields : List (Field ν σ)) {fields' : List (Field ν σ)}
    (hfields : r.fields = fields ++ f :: fields') (h : ∀ s, f.read v s = f.read v' s)
    (before : List ν) {after : List ν} (hlen : fields.length = before.length)
    (hw : view w = .ok (.array (before ++ v :: after)))
    (hw' : view w' = .ok (.array (before ++ v' :: after))) (initial : σ) :
    r.read initial w = r.read initial w' := by
  simp only [read, look_eq_ok.mpr hw, look_eq_ok.mpr hw', ok_bind, hfields, readItems_congr hlen h,
    List.length_append, List.length_cons]

end Record

end ReceiptRules

import Mathlib.Data.List.Nodup
import ReceiptRules.Proofs.Except
import ReceiptRules.Reading.Record

/-!
# Which documents are records

A record that is given as an object can be read if each of its fields stands there at most once, with a
value that the field takes, and the needed ones do stand there (`Record.read_object_isOk_iff`). This
holds of the records whose fields do not look at what was read before, `Record.Lawful`. A part of a
record that a single field decides is what that field reads (`Record.read_object_part`).
-/

namespace ReceiptRules

variable {ν σ β : Type}

theorem Document.look_eq_ok [Document ν] {v : ν} {w : View ν} : look v = .ok w ↔ view v = .ok w :=
  mapError_eq_ok

/-! ## Entries -/

/-- The values under a key, in their order. -/
def valuesUnder (key : String) (entries : List (Except Json5.Error String × ν)) : List ν :=
  entries.filterMap fun (k, v) => if k.toOption = some key then some v else none

variable {key : String} {entries : List (Except Json5.Error String × ν)}

@[simp] theorem valuesUnder_nil : valuesUnder (ν := ν) key [] = [] := rfl

@[simp] theorem valuesUnder_cons_self {v : ν} :
    valuesUnder key ((.ok key, v) :: entries) = v :: valuesUnder key entries := by
  simp [valuesUnder, Except.toOption]

theorem valuesUnder_cons_of_ne {k : String} {v : ν} (h : k ≠ key) :
    valuesUnder key ((.ok k, v) :: entries) = valuesUnder key entries := by
  simp [valuesUnder, Except.toOption, h]

@[simp] theorem mem_valuesUnder {v : ν} : v ∈ valuesUnder key entries ↔ (.ok key, v) ∈ entries := by
  simp only [valuesUnder, List.mem_filterMap, Option.ite_none_right_eq_some, Option.some.injEq]
  constructor
  · intro h
    rcases h with ⟨⟨k, w⟩, hmem, hk, rfl⟩
    cases k with
    | error e => cases hk
    | ok k =>
      obtain rfl : k = key := Option.some.inj hk
      exact hmem
  · exact fun h => ⟨(.ok key, v), h, rfl, rfl⟩

/-- A key that is not written twice has one value at most. -/
theorem length_valuesUnder_le_one (h : (entries.map Prod.fst).Nodup) :
    (valuesUnder key entries).length ≤ 1 := by
  induction entries with
  | nil => simp
  | cons e rest ih =>
    obtain ⟨k, v⟩ := e
    obtain ⟨hnotMem, hrest⟩ := List.nodup_cons.mp h
    by_cases hk : k = .ok key
    · subst hk
      have hnone : valuesUnder key rest = [] := by
        refine List.eq_nil_iff_forall_not_mem.mpr fun w hw => hnotMem ?_
        exact List.mem_map.mpr ⟨_, mem_valuesUnder.mp hw, rfl⟩
      simp [hnone]
    · have hskip : valuesUnder key ((k, v) :: rest) = valuesUnder key rest := by
        cases k with
        | error e => rfl
        | ok k => exact valuesUnder_cons_of_ne fun h => hk (congrArg _ h)
      rw [hskip]
      exact ih hrest

theorem eq_nil_or_singleton {values : List ν} (h : values.length ≤ 1) :
    values = [] ∨ ∃ v, values = [v] := by
  match values with
  | [] => exact .inl rfl
  | [v] => exact .inr ⟨v, rfl⟩
  | _ :: _ :: _ => simp at h

/-! ## Fields -/

/-- The field takes the value, whatever was read before. -/
def Field.Accepts (f : Field ν σ) (v : ν) : Prop := ∀ s, ∃ s', f.read v s = .ok s'

/-- What an object may hold under the name of a field. -/
structure Field.Holds (f : Field ν σ) (values : List ν) : Prop where
  once : values.length ≤ 1
  present : f.required = true → values ≠ []
  accepted : ∀ v ∈ values, f.Accepts v

/-- The field takes what stands under its name, and is seen at most once in all. -/
def Field.Fits (f : Field ν σ) (seen : List String)
    (entries : List (Except Json5.Error String × ν)) : Prop :=
  (∀ v ∈ valuesUnder f.name entries, f.Accepts v) ∧
    (valuesUnder f.name entries).length + (if f.name ∈ seen then 1 else 0) ≤ 1

namespace Field
variable {f : Field ν σ} {seen : List String} {v : ν}

/-- A field that reads a value of its own and puts it into the record. -/
def Sets (f : Field ν σ) (value : ν → Except ReadError β) (set : β → σ → σ) : Prop :=
  ∀ v s, f.read v s = (value v).map fun b => set b s

section
variable {value : ν → Except ReadError β} {set : β → σ → σ}

theorem Sets.accepts_iff [Inhabited σ] (h : f.Sets value set) :
    f.Accepts v ↔ ∃ b, value v = .ok b := by
  simp only [Accepts, h v, map_eq_ok]
  constructor
  · intro hall
    obtain ⟨s', b, hb, -⟩ := hall default
    exact ⟨b, hb⟩
  · rintro ⟨b, hb⟩ s
    exact ⟨set b s, b, hb, rfl⟩

theorem Sets.accepts_of_read (h : f.Sets value set) {s s' : σ} (hread : f.read v s = .ok s') :
    f.Accepts v := by
  intro t
  rw [h, map_eq_ok] at hread
  obtain ⟨b, hb, -⟩ := hread
  exact ⟨set b t, by rw [h, hb]; rfl⟩

theorem Sets.part_eq {γ : Type} {part : σ → γ} {g : β → γ} (h : f.Sets value set)
    (hpart : ∀ b s, part (set b s) = g b) {s s' : σ} (hread : f.read v s = .ok s') :
    (value v).map g = .ok (part s') := by
  rw [h, map_eq_ok] at hread
  obtain ⟨b, hb, rfl⟩ := hread
  rw [hb, hpart]
  rfl

theorem Sets.part_frame {γ : Type} {part : σ → γ} (h : f.Sets value set)
    (hpart : ∀ b s, part (set b s) = part s) {s s' : σ} (hread : f.read v s = .ok s') :
    part s' = part s := by
  rw [h, map_eq_ok] at hread
  obtain ⟨b, -, rfl⟩ := hread
  exact hpart b s

theorem Sets.holds_iff_of_required [Inhabited σ] (h : f.Sets value set) (hreq : f.required = true)
    {values : List ν} : f.Holds values ↔ ∃ v, values = [v] ∧ ∃ b, value v = .ok b := by
  constructor
  · intro h'
    rcases h' with ⟨once, present, accepted⟩
    obtain rfl | ⟨v, rfl⟩ := eq_nil_or_singleton once
    · exact absurd rfl (present hreq)
    · obtain ⟨b, hb⟩ := h.accepts_iff.mp (accepted v List.mem_cons_self)
      exact ⟨v, rfl, b, hb⟩
  · intro h'
    rcases h' with ⟨v, rfl, b, hb⟩
    refine ⟨by simp, by simp, fun w hw => ?_⟩
    obtain rfl := List.mem_singleton.mp hw
    exact h.accepts_iff.mpr ⟨b, hb⟩

theorem Sets.holds_iff_of_optional [Inhabited σ] (h : f.Sets value set) (hreq : f.required = false)
    {values : List ν} : f.Holds values ↔ values.length ≤ 1 ∧ ∀ v ∈ values, ∃ b, value v = .ok b := by
  constructor
  · intro h'
    rcases h' with ⟨once, -, accepted⟩
    exact ⟨once, fun v hv => h.accepts_iff.mp (accepted v hv)⟩
  · intro h'
    rcases h' with ⟨once, accepted⟩
    exact ⟨once, by simp [hreq], fun v hv => h.accepts_iff.mpr (accepted v hv)⟩

end

theorem fits_nil : f.Fits seen [] := by
  refine ⟨by simp, ?_⟩
  rw [valuesUnder_nil, List.length_nil]
  split <;> omega

theorem fits_cons_self :
    f.Fits seen ((.ok f.name, v) :: entries) ↔
      f.name ∉ seen ∧ f.Accepts v ∧ f.Fits (f.name :: seen) entries := by
  simp only [Fits, valuesUnder_cons_self, List.forall_mem_cons, List.length_cons,
    List.mem_cons_self, if_true]
  constructor
  · intro h
    rcases h with ⟨⟨hv, hall⟩, hlen⟩
    have hseen : f.name ∉ seen := by
      intro hmem
      rw [if_pos hmem] at hlen
      omega
    rw [if_neg hseen] at hlen
    exact ⟨hseen, hv, hall, by omega⟩
  · intro h
    rcases h with ⟨hseen, hv, hall, hlen⟩
    rw [if_neg hseen]
    exact ⟨⟨hv, hall⟩, by omega⟩

theorem fits_cons_of_ne (h : key ≠ f.name) :
    f.Fits seen ((.ok key, v) :: entries) ↔ f.Fits seen entries := by
  simp only [Fits, valuesUnder_cons_of_ne h]

theorem fits_seen_of_ne (h : key ≠ f.name) : f.Fits (key :: seen) entries ↔ f.Fits seen entries := by
  simp only [Fits, List.mem_cons, h.symm, false_or]

end Field

namespace Record
variable {r : Record ν σ}

/-- A record with fields of different names, each of which takes a value or not regardless of what was
read before. -/
structure Lawful (r : Record ν σ) : Prop where
  names : (r.fields.map Field.name).Nodup
  uniform : ∀ f ∈ r.fields, ∀ v s s', f.read v s = .ok s' → f.Accepts v

/-- A part of the record that only the field of the given name decides, by reading its value. -/
structure Decides (r : Record ν σ) (name : String) (part : σ → β) (value : ν → Except ReadError β) :
    Prop where
  known : ∃ f ∈ r.fields, f.name = name
  self : ∀ f ∈ r.fields, f.name = name → ∀ v s s', f.read v s = .ok s' → value v = .ok (part s')
  other : ∀ f ∈ r.fields, f.name ≠ name → ∀ v s s', f.read v s = .ok s' → part s' = part s

theorem name_of_field? {f : Field ν σ} (h : r.field? key = some f) : f ∈ r.fields ∧ f.name = key :=
  ⟨List.mem_of_find?_eq_some h, by simpa using List.find?_some h⟩

theorem field?_eq_none_iff : r.field? key = none ↔ ∀ f ∈ r.fields, f.name ≠ key := by
  simp [field?]

/-- A part is decided by the field that sets it, if no other field changes it. -/
theorem decides_of_sets {γ : Type} (hr : r.Lawful) {f : Field ν σ} (hf : f ∈ r.fields)
    {value : ν → Except ReadError β} {set : β → σ → σ} (hsets : f.Sets value set) {part : σ → γ}
    {g : β → γ} (hself : ∀ b s, part (set b s) = g b)
    (hother : ∀ f' ∈ r.fields, f' ≠ f → ∀ v s s', f'.read v s = .ok s' → part s' = part s) :
    r.Decides f.name part fun v => (value v).map g where
  known := ⟨f, hf, rfl⟩
  self := by
    intro f' hf' hname v s s' h
    obtain rfl := List.inj_on_of_nodup_map hr.names hf' hf hname
    exact hsets.part_eq hself h
  other := fun f' hf' hname => hother f' hf' fun h => hname (congrArg Field.name h)

/-! ## Objects -/

variable [Document ν]

/-- An entry that does not stop the reader by itself: its key has a value, and so has what stands under a
key that is no field. -/
def Passes (r : Record ν σ) (e : Except Json5.Error String × ν) : Prop :=
  ∃ key, e.1 = .ok key ∧ (r.field? key = none → ∃ j, Document.toJson e.2 = .ok j)

variable {seen : List String} {s : σ} {v : ν} {rest : List (Except Json5.Error String × ν)}

/-- The step of the reader: an entry is the value of a field that was not seen before, or stands under
another key and has a value. -/
theorem readEntries_cons_eq_ok {k : Except Json5.Error String} {out : List String × σ} :
    r.readEntries seen s ((k, v) :: rest) = .ok out ↔
      ∃ key, k = .ok key ∧
        ((∃ f s', r.field? key = some f ∧ key ∉ seen ∧ f.read v s = .ok s' ∧
            r.readEntries (key :: seen) s' rest = .ok out) ∨
          (r.field? key = none ∧ (∃ j, Document.toJson v = .ok j) ∧
            r.readEntries seen s rest = .ok out)) := by
  simp only [readEntries, bind_eq_ok, mapError_eq_ok]
  refine exists_congr fun key => and_congr_right fun _ => ?_
  cases hfield : r.field? key with
  | none => simp [Document.readJson]
  | some f =>
    by_cases hseen : key ∈ seen
    · simp [hseen]
    · simp [hseen]

/-- The entry of a field puts the value that is under it into the record. -/
theorem readEntries_sets {f : Field ν σ} {value : ν → Except ReadError β} {set : β → σ → σ}
    {b : β} {out : List String × σ} (hsets : f.Sets value set) (hvalue : value v = .ok b)
    (hfield : r.field? f.name = some f) (hseen : f.name ∉ seen)
    (hrest : r.readEntries (f.name :: seen) (set b s) rest = .ok out) :
    r.readEntries seen s ((.ok f.name, v) :: rest) = .ok out := by
  have hread : f.read v s = .ok (set b s) := by
    rw [hsets, hvalue]
    rfl
  exact readEntries_cons_eq_ok.mpr ⟨f.name, rfl, .inl ⟨f, _, hfield, hseen, hread, hrest⟩⟩

/-- Reading entries succeeds if each passes, and each field is there at most once in all, with a value
that it takes. -/
theorem readEntries_isOk_iff (hr : r.Lawful) :
    (∃ out, r.readEntries seen s entries = .ok out) ↔
      (∀ e ∈ entries, r.Passes e) ∧ ∀ f ∈ r.fields, f.Fits seen entries := by
  induction entries generalizing seen s with
  | nil =>
    simp only [readEntries, Except.ok.injEq, exists_eq', List.not_mem_nil, true_iff]
    exact ⟨by simp, fun f _ => Field.fits_nil⟩
  | cons e rest ih =>
    obtain ⟨k, v⟩ := e
    simp only [readEntries_cons_eq_ok, List.forall_mem_cons]
    constructor
    · intro h
      rcases h with ⟨out, key, rfl, ⟨f, s', hfield, hseen, hread, hrest⟩ | ⟨hfield, hjson, hrest⟩⟩
      · obtain ⟨hpass, hfits⟩ := ih.mp ⟨out, hrest⟩
        obtain ⟨hf, rfl⟩ := name_of_field? hfield
        refine ⟨⟨⟨f.name, rfl, by simp [hfield]⟩, hpass⟩, fun g hg => ?_⟩
        by_cases hname : f.name = g.name
        · obtain rfl := List.inj_on_of_nodup_map hr.names hf hg hname
          exact Field.fits_cons_self.mpr ⟨hseen, hr.uniform f hf v s s' hread, hfits f hf⟩
        · rw [Field.fits_cons_of_ne hname]
          exact (Field.fits_seen_of_ne hname).mp (hfits g hg)
      · obtain ⟨hpass, hfits⟩ := ih.mp ⟨out, hrest⟩
        refine ⟨⟨⟨key, rfl, fun _ => hjson⟩, hpass⟩, fun g hg => ?_⟩
        exact (Field.fits_cons_of_ne fun h => field?_eq_none_iff.mp hfield g hg h.symm).mpr (hfits g hg)
    · intro h
      rcases h with ⟨⟨⟨key, rfl, hjson⟩, hpass⟩, hfits⟩
      cases hfield : r.field? key with
      | none =>
        have hrest := fun g hg =>
          (Field.fits_cons_of_ne fun h => field?_eq_none_iff.mp hfield g hg h.symm).mp (hfits g hg)
        obtain ⟨out, hout⟩ := ih.mpr ⟨hpass, hrest⟩
        exact ⟨out, key, rfl, .inr ⟨hfield, hjson hfield, hout⟩⟩
      | some f =>
        obtain ⟨hf, rfl⟩ := name_of_field? hfield
        obtain ⟨hseen, haccepts, hself⟩ := Field.fits_cons_self.mp (hfits f hf)
        obtain ⟨s', hread⟩ := haccepts s
        have hrest : ∀ g ∈ r.fields, g.Fits (f.name :: seen) rest := by
          intro g hg
          by_cases hname : f.name = g.name
          · obtain rfl := List.inj_on_of_nodup_map hr.names hf hg hname
            exact hself
          · rw [Field.fits_seen_of_ne hname]
            exact (Field.fits_cons_of_ne hname).mp (hfits g hg)
        obtain ⟨out, hout⟩ := ih.mpr ⟨hpass, hrest⟩
        exact ⟨out, f.name, rfl, .inl ⟨f, s', hfield, hseen, hread, hout⟩⟩

/-- What the reader has seen in the end. -/
theorem mem_seen_iff {out : List String × σ} (h : r.readEntries seen s entries = .ok out)
    {f : Field ν σ} (hf : f ∈ r.fields) :
    f.name ∈ out.1 ↔ f.name ∈ seen ∨ valuesUnder f.name entries ≠ [] := by
  induction entries generalizing seen s with
  | nil =>
    simp only [readEntries, Except.ok.injEq] at h
    simp [← h]
  | cons e rest ih =>
    obtain ⟨k, v⟩ := e
    obtain ⟨key, rfl, ⟨g, s', hfield, -, -, hrest⟩ | ⟨hfield, -, hrest⟩⟩ := readEntries_cons_eq_ok.mp h
    · rw [ih hrest]
      by_cases hname : key = f.name
      · subst hname
        simp
      · simp [valuesUnder_cons_of_ne hname, Ne.symm hname]
    · rw [ih hrest, valuesUnder_cons_of_ne fun h => field?_eq_none_iff.mp hfield f hf h.symm]

/-- The part that a field decides is what was read from its value, or is as it was before. -/
theorem readEntries_part (hr : r.Lawful) {name : String} {part : σ → β}
    {value : ν → Except ReadError β} (hpart : r.Decides name part value) {out : List String × σ}
    (h : r.readEntries seen s entries = .ok out) :
    (valuesUnder name entries = [] → part out.2 = part s) ∧
      ∀ v ∈ valuesUnder name entries, value v = .ok (part out.2) := by
  induction entries generalizing seen s with
  | nil =>
    simp only [readEntries, Except.ok.injEq] at h
    simp [← h]
  | cons e rest ih =>
    obtain ⟨k, v⟩ := e
    obtain ⟨key, rfl, ⟨f, s', hfield, -, hread, hrest⟩ | ⟨hfield, -, hrest⟩⟩ :=
      readEntries_cons_eq_ok.mp h
    · obtain ⟨hf, rfl⟩ := name_of_field? hfield
      by_cases hname : f.name = name
      · -- The field is not there again, so the part stays what it is now.
        subst hname
        have hfits := ((readEntries_isOk_iff hr).mp ⟨out, hrest⟩).2 f hf
        have hnone : valuesUnder f.name rest = [] := by
          have := hfits.2
          rw [if_pos List.mem_cons_self] at this
          exact List.length_eq_zero_iff.mp (by omega)
        simp [hnone, (ih hrest).1 hnone, hpart.self f hf rfl v s s' hread]
      · rw [valuesUnder_cons_of_ne hname, ← hpart.other f hf hname v s s' hread]
        exact ih hrest
    · obtain ⟨f, hf, hname⟩ := hpart.known
      have hne : key ≠ name := fun h => field?_eq_none_iff.mp hfield f hf (hname.trans h.symm)
      rw [valuesUnder_cons_of_ne hne]
      exact ih hrest

theorem read_object_eq_ok {initial : σ} (hv : Document.view v = .ok (.object entries)) :
    r.read initial v = .ok s ↔
      ∃ seen, r.readEntries [] initial entries = .ok (seen, s) ∧
        ∀ f ∈ r.fields, f.required = true → f.name ∈ seen := by
  have hlook := Document.look_eq_ok.mpr hv
  simp only [read, hlook, bind_eq_ok, Except.ok.injEq, exists_eq_left', Prod.exists]
  constructor
  · intro h
    rcases h with ⟨seen, s', hread, h⟩
    split at h
    · cases h
    · next hnone =>
      obtain rfl := pure_eq_ok.mp h
      exact ⟨seen, hread, by simpa using hnone⟩
  · intro h
    rcases h with ⟨seen, hread, hall⟩
    have hnone : (r.fields.find? fun f => f.required && !seen.contains f.name) = none := by
      simpa using hall
    exact ⟨seen, s, hread, by rw [hnone]; rfl⟩

/-- Which objects are records. -/
theorem read_object_isOk_iff (hr : r.Lawful) {initial : σ}
    (hv : Document.view v = .ok (.object entries)) :
    (∃ s, r.read initial v = .ok s) ↔
      (∀ e ∈ entries, r.Passes e) ∧ ∀ f ∈ r.fields, f.Holds (valuesUnder f.name entries) := by
  constructor
  · intro h
    rcases h with ⟨s, h⟩
    obtain ⟨seen, hread, hrequired⟩ := (read_object_eq_ok hv).mp h
    obtain ⟨hpass, hfits⟩ := (readEntries_isOk_iff hr).mp ⟨_, hread⟩
    refine ⟨hpass, fun f hf => ⟨?_, fun hreq => ?_, (hfits f hf).1⟩⟩
    · have := (hfits f hf).2
      omega
    · simpa using (mem_seen_iff hread hf).mp (hrequired f hf hreq)
  · intro h
    rcases h with ⟨hpass, hholds⟩
    have hfits : ∀ f ∈ r.fields, f.Fits [] entries := fun f hf =>
      ⟨(hholds f hf).accepted, by simpa using (hholds f hf).once⟩
    obtain ⟨⟨seen, s⟩, hread⟩ := (readEntries_isOk_iff hr (s := initial)).mpr ⟨hpass, hfits⟩
    refine ⟨s, (read_object_eq_ok hv).mpr ⟨seen, hread, fun f hf hreq => ?_⟩⟩
    exact (mem_seen_iff hread hf).mpr (.inr ((hholds f hf).present hreq))

/-- The part of a record that a field decides, read from an object. -/
theorem read_object_part (hr : r.Lawful) {name : String} {part : σ → β}
    {value : ν → Except ReadError β} (hpart : r.Decides name part value) {initial : σ}
    (hv : Document.view v = .ok (.object entries)) (h : r.read initial v = .ok s) :
    (valuesUnder name entries = [] → part s = part initial) ∧
      ∀ w ∈ valuesUnder name entries, value w = .ok (part s) := by
  obtain ⟨seen, hread, -⟩ := (read_object_eq_ok hv).mp h
  exact readEntries_part hr hpart hread

/-- Only objects and lists are records. -/
theorem view_of_read {initial : σ} (h : r.read initial v = .ok s) :
    (∃ entries, Document.view v = .ok (.object entries)) ∨
      ∃ items, Document.view v = .ok (.array items) := by
  obtain ⟨w, hw, h⟩ := bind_eq_ok.mp h
  rw [Document.look_eq_ok] at hw
  cases w with
  | object entries => exact .inl ⟨entries, hw⟩
  | array items => exact .inr ⟨items, hw⟩
  | _ => cases h

/-! ## Lists -/

theorem read_array_eq_ok {initial : σ} {items : List ν} (hv : Document.view v = .ok (.array items)) :
    r.read initial v = .ok s ↔
      ∃ surplus, r.readItems 0 initial r.fields items = .ok (surplus, s) ∧
        (surplus = [] ∨ Document.surplusAllowed ν = true) := by
  have hlook := Document.look_eq_ok.mpr hv
  simp only [read, hlook, bind_eq_ok, Except.ok.injEq, exists_eq_left', Prod.exists]
  refine exists_congr fun surplus => ?_
  constructor
  · intro h
    rcases h with ⟨s', hread, h⟩
    split at h
    · next hsurplus =>
      obtain rfl := pure_eq_ok.mp h
      exact ⟨hread, by simpa using hsurplus⟩
    · cases h
  · intro h
    rcases h with ⟨hread, hsurplus⟩
    refine ⟨s, hread, ?_⟩
    rw [if_pos (by simpa using hsurplus)]
    rfl

end Record

end ReceiptRules

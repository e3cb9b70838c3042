import ReceiptRules.Proofs.Condition.FirstFault
import ReceiptRules.Proofs.Text.Edits

/-!
# Suggestions for unknown keys

A spec fails at an unknown key exactly where this key is the first fault of the spec. The error then
suggests a key if three edits or fewer turn the unknown key into it, both in lower case, and of all keys
the one with the fewest edits, and of several such the one that is listed first
(`Condition.ofSpec_unknownKey`).
-/

namespace ReceiptRules

/-! ## The nearest key -/

namespace Key

variable {text : String} {ks : List Key} {k near : Key} {m n : ℕ}

/-- A number of edits turns the text into the key, without regard to case. -/
def Reaches (text : String) (n : ℕ) (k : Key) : Prop :=
  Text.Edits n (Text.lowercase text.toList) (Text.lowercase k.name.toList)

theorem isLeast_distanceTo (text : String) (k : Key) :
    IsLeast {n | Reaches text n k} (distanceTo text k) := by
  rw [distanceTo, Text.distance_eq]
  exact Text.isLeast_editDistance _ _

/-- The first key of those in a list that take the fewest edits: each key in front of it takes more edits,
and no key behind it takes fewer. -/
def IsNearest (text : String) (ks : List Key) (n : ℕ) (near : Key) : Prop :=
  IsLeast {n | Reaches text n near} n ∧ ∃ before after, ks = before ++ near :: after ∧
    (∀ k ∈ before, ∀ m, Reaches text m k → n < m) ∧ ∀ k ∈ after, ∀ m, Reaches text m k → n ≤ m

theorem IsNearest.le (h : IsNearest text ks n near) (hk : k ∈ ks) (hm : Reaches text m k) : n ≤ m := by
  obtain ⟨hleast, before, after, rfl, hbefore, hafter⟩ := h
  rcases List.mem_append.mp hk with hk | hk
  · exact (hbefore k hk m hm).le
  · rcases List.mem_cons.mp hk with rfl | hk
    · exact hleast.2 hm
    · exact hafter k hk m hm

theorem IsNearest.cons (h : IsNearest text ks n near) (hlt : n < distanceTo text k) :
    IsNearest text (k :: ks) n near := by
  obtain ⟨hleast, before, after, rfl, hbefore, hafter⟩ := h
  refine ⟨hleast, k :: before, after, rfl, fun other hother m hm => ?_, hafter⟩
  rcases List.mem_cons.mp hother with rfl | hother
  · exact hlt.trans_le ((isLeast_distanceTo text other).2 hm)
  · exact hbefore other hother m hm

theorem IsNearest.head (h : IsNearest text ks n near) (hle : distanceTo text k ≤ n) :
    IsNearest text (k :: ks) (distanceTo text k) k :=
  ⟨isLeast_distanceTo text k, [], ks, rfl, by simp, fun _ hother _ hm => hle.trans (h.le hother hm)⟩

theorem isNearest_singleton (text : String) (k : Key) : IsNearest text [k] (distanceTo text k) k :=
  ⟨isLeast_distanceTo text k, [], [], rfl, by simp, by simp⟩

theorem exists_isNearest (text : String) (k : Key) (ks : List Key) :
    ∃ near n, nearest? text (k :: ks) = some (near, n) ∧ IsNearest text (k :: ks) n near := by
  induction ks generalizing k with
  | nil => exact ⟨k, _, rfl, isNearest_singleton text k⟩
  | cons k' ks ih =>
    obtain ⟨near, n, hnear, hnearest⟩ := ih k'
    rw [nearest?, hnear]
    by_cases hlt : n < distanceTo text k
    · exact ⟨near, n, by simp [hlt], hnearest.cons hlt⟩
    · exact ⟨k, _, by simp [hlt], hnearest.head (not_lt.mp hlt)⟩

/-! ## The suggestion -/

/-- What is suggested for a text: a key if some key takes at most three edits, and then the first one of
those that take the fewest. -/
structure Suggests (text : String) (suggestion : Option Key) : Prop where
  isSome_iff : suggestion.isSome ↔ ∃ k n, Reaches text n k ∧ n ≤ 3
  nearest : ∀ near, suggestion = some near → ∃ n ≤ 3, IsNearest text known n near

theorem suggests_suggest? (text : String) : Suggests text (suggest? text) := by
  obtain ⟨near, n, hnear, hnearest⟩ : ∃ near n, nearest? text known = some (near, n) ∧
      IsNearest text known n near := exists_isNearest text _ _
  by_cases hn : n ≤ suggestionDistance
  · have hsuggest : suggest? text = some near := by
      simp [suggest?, hnear, hn]
    rw [hsuggest]
    constructor
    · exact iff_of_true rfl ⟨near, n, hnearest.1.1, hn⟩
    · rintro _ ⟨⟩
      exact ⟨n, hn, hnearest⟩
  · have hsuggest : suggest? text = none := by
      simpa [suggest?, hnear] using hn
    rw [hsuggest]
    refine ⟨iff_of_false (by simp) ?_, by simp⟩
    rintro ⟨k, m, hm, hle⟩
    exact hn ((hnearest.le (mem_known k) hm).trans hle)

/-- One edit is enough for `$or` and for `$not`, of which `$or` is listed first. -/
example : suggest? "$OT" = some (.combinator .any) := by cbv

namespace Suggests

variable {suggestion : Option Key}

/-- A short text is near to the key `$or`, of which every character can be replaced or put in. -/
theorem of_short (h : Suggests text suggestion) (hshort : (Text.lowercase text.toList).length ≤ 3) :
    ∃ k, suggestion = some k := by
  let k : Key := .combinator .any
  have hlength : (Text.lowercase k.name.toList).length = 3 := by decide
  have hmax := Text.editDistance_le_max (Text.lowercase text.toList) (Text.lowercase k.name.toList)
  have hreaches : Reaches text _ k := Text.edits_editDistance _ _
  exact Option.isSome_iff_exists.mp (h.isSome_iff.mpr ⟨k, _, hreaches, by omega⟩)

theorem length_lowercase_name_le (k : Key) : (Text.lowercase k.name.toList).length ≤ 17 := by
  rcases k with (_ | _) | _ | (_ | _ | _ | _ | _ | _ | _ | _) <;> decide

/-- A long text is longer than every key by more than the edits of a suggestion. -/
theorem of_long (h : Suggests text suggestion) (hlong : 20 < (Text.lowercase text.toList).length) :
    suggestion = none := by
  rw [Option.eq_none_iff_forall_ne_some]
  intro near hnear
  obtain ⟨n, hn, hnearest⟩ := h.nearest near hnear
  have hlength := Text.Edits.length_le hnearest.1.1
  have hname := length_lowercase_name_le near
  omega

theorem of_lowercase_eq (h : Suggests text suggestion)
    (hcase : Text.lowercase text.toList = Text.lowercase k.name.toList) :
    ∃ near, suggestion = some near ∧
      Text.lowercase near.name.toList = Text.lowercase text.toList := by
  have hreaches : Reaches text 0 k := Text.edits_zero_iff.mpr hcase
  obtain ⟨near, rfl⟩ := Option.isSome_iff_exists.mp (h.isSome_iff.mpr ⟨k, 0, hreaches, by omega⟩)
  obtain ⟨n, -, hnearest⟩ := h.nearest near rfl
  obtain rfl : n = 0 := Nat.le_zero.mp (hnearest.le (mem_known k) hreaches)
  exact ⟨near, rfl, (Text.edits_zero_iff.mp hnearest.1.1).symm⟩

end Suggests

theorem ofName?_eq_none_iff {name : String} : ofName? name = none ↔ ∀ k : Key, k.name ≠ name := by
  simp [ofName?, mem_known]

end Key

/-! ## The first fault is at an unknown key -/

namespace Condition

variable {j : Json} {key : String} {suggestion : Option Key} {position : List Step}

/-- A fault of this kind without a place is that of an object with one entry. -/
theorem exists_entry_of_unknownKey (h : ofSpec j = .error ⟨.unknownKey key suggestion, []⟩) :
    suggestion = Key.suggest? key ∧ ∃ value, j = .object [(key, value)] := by
  fun_cases ofSpec j with
  | case2 name value hname =>
    rw [ofSpec, hname] at h
    cases h
    exact ⟨rfl, value, rfl⟩
  | case3 name op hname items =>
    rw [ofSpec, hname] at h
    obtain ⟨_, _, inner, -, -, -, hinner⟩ := exists_of_ofSpecs_eq_error (map_eq_error.mp h)
    cases congrArg SpecError.place hinner
  | case4 name op hname value hvalue =>
    rw [ofSpec, hname] at h
    cases value with
    | array items => exact absurd rfl (hvalue items)
    | _ => cases h
  | case5 name value hname =>
    rw [ofSpec, hname] at h
    obtain ⟨inner, -, hinner⟩ := mapError_eq_error.mp h
    cases congrArg SpecError.place hinner
  | case6 name value k hname =>
    rw [ofSpec, hname] at h
    obtain ⟨fault, -, hfault⟩ := mapError_eq_error.mp h
    cases congrArg SpecError.place hfault
  | case7 | case9 =>
    rw [ofSpec] at h
    · cases h
    all_goals assumption
  | _ => cases h

/-- A list fails at its first item with a fault. -/
theorem ofSpecs_eq_error {op : Combinator} {start index : ℕ} {items : List Json} {item : Json}
    {inner : SpecError} (hindex : items[index]? = some item)
    (hbefore : ∀ i < index, ∃ item c, items[i]? = some item ∧ ofSpec item = .ok c)
    (hitem : ofSpec item = .error inner) :
    ofSpecs op start items = .error (inner.within (.item op (start + index))) := by
  induction items generalizing start index with
  | nil => cases hindex
  | cons first items ih =>
    cases index with
    | zero =>
      obtain rfl : first = item := Option.some.inj hindex
      rw [ofSpecs, hitem]
      rfl
    | succ index =>
      obtain ⟨first', c, hfirst, hc⟩ := hbefore 0 (Nat.succ_pos index)
      obtain rfl : first = first' := Option.some.inj hfirst
      have hrest : ofSpecs op (start + 1) items =
          .error (inner.within (.item op (start + 1 + index))) :=
        ih hindex fun i hi => hbefore (i + 1) (Nat.succ_lt_succ hi)
      rw [ofSpecs, hc]
      simp only [Except.mapError, ok_bind, hrest]
      rw [Nat.add_right_comm, Nat.add_assoc]
      rfl

theorem Leftmost.of_not (h : Leftmost (.object [(Key.not.name, j)]) (.key .not :: position)) :
    Leftmost j position := by
  intro before op index after heq i hi
  have hpart := h (.key .not :: before) op index after (by rw [heq]; rfl) i hi
  rwa [List.cons_append, Json.part?_not] at hpart

theorem Leftmost.of_item {op : Combinator} {items : List Json} {index : ℕ} {item : Json}
    (hindex : items[index]? = some item)
    (h : Leftmost (.object [(op.name, .array items)]) (.item op index :: position)) :
    Leftmost item position := by
  intro before op' index' after heq i hi
  have hpart := h (.item op index :: before) op' index' after (by rw [heq]; rfl) i hi
  rwa [List.cons_append, Json.part?_item hindex] at hpart

theorem Leftmost.before {op : Combinator} {items : List Json} {index : ℕ}
    (h : Leftmost (.object [(op.name, .array items)]) (.item op index :: position)) :
    ∀ i < index, ∃ item c, items[i]? = some item ∧ ofSpec item = .ok c := by
  intro i hi
  obtain ⟨item, c, hpart, hc⟩ := h [] op index position rfl i hi
  cases hitem : items[i]? with
  | none => simp [Json.part?, hitem] at hpart
  | some item' =>
    rw [List.nil_append, Json.part?_item hitem, Json.part?_nil] at hpart
    exact ⟨item, c, hpart, hc⟩

theorem ofSpec_not (j : Json) :
    ofSpec (.object [(Key.not.name, j)]) =
      ((ofSpec j).map not).mapError (SpecError.within (.key .not)) := by
  rw [ofSpec, Key.ofName?_name]

theorem ofSpec_combination (op : Combinator) (items : List Json) :
    ofSpec (.object [(op.name, .array items)]) = (ofSpecs op 0 items).map (combination op) := by
  have hname : Key.ofName? op.name = some (.combinator op) := Key.ofName?_name (.combinator op)
  rw [ofSpec, hname]

/-- The fault of a part is the fault of the spec if there is none to its left. -/
theorem ofSpec_eq_error_of_part {found : Json} {e : SpecError} (hpart : j.part? position = some found)
    (hleft : Leftmost j position) (h : ofSpec found = .error e) :
    ofSpec j = .error ⟨e.fault, position ++ e.place⟩ := by
  fun_induction Json.part? j position with
  | case1 j =>
    cases hpart
    exact h
  | case2 j place ih =>
    rw [ofSpec_not, ih hpart hleft.of_not]
    rfl
  | case4 op index place items item hindex ih =>
    rw [ofSpec_combination, ofSpecs_eq_error hindex hleft.before (ih hpart (hleft.of_item hindex)),
      Nat.zero_add]
    rfl
  | _ => cases hpart

/-- A key that is not known makes a spec fail at each place where it is the key of the first part with a
fault, and at no other. What the error suggests depends on the key alone: the known key that takes the
fewest edits, if these are at most three. Three characters or fewer are always near enough to a known
key, more than twenty never are, and a known key in other letter case is recognised. -/
theorem ofSpec_unknownKey (hkey : ∀ k : Key, k.name ≠ key) :
    ∃ suggestion, Key.Suggests key suggestion ∧
      (∀ j place suggestion', ofSpec j = .error ⟨.unknownKey key suggestion', place⟩ ↔
        suggestion' = suggestion ∧ Leftmost j place ∧
          ∃ value, j.part? place = some (.object [(key, value)])) ∧
      ((Text.lowercase key.toList).length ≤ 3 → ∃ k, suggestion = some k) ∧
      (20 < (Text.lowercase key.toList).length → suggestion = none) ∧
      ∀ k : Key, Text.lowercase key.toList = Text.lowercase k.name.toList →
        ∃ near, suggestion = some near ∧
          Text.lowercase near.name.toList = Text.lowercase key.toList := by
  have hsuggests := Key.suggests_suggest? key
  refine ⟨_, hsuggests, fun j place suggestion' => ⟨fun h => ?_, ?_⟩, hsuggests.of_short,
    hsuggests.of_long, fun k => hsuggests.of_lowercase_eq⟩
  · obtain ⟨position, found, hfound⟩ := exists_failsAt h
    obtain ⟨hsuggestion, value, rfl⟩ := exists_entry_of_unknownKey hfound.alone
    obtain rfl : place = position := by
      simpa [SpecFault.steps, SpecFault.key?] using hfound.place
    exact ⟨hsuggestion, hfound.leftmost, value, hfound.part⟩
  · rintro ⟨rfl, hleft, value, hpart⟩
    have hentry : ofSpec (.object [(key, value)]) =
        .error ⟨.unknownKey key (Key.suggest? key), []⟩ := by
      rw [ofSpec, Key.ofName?_eq_none_iff.mpr hkey]
    simpa using ofSpec_eq_error_of_part hpart hleft hentry

theorem ofSpec_unknownKey_upperCase :
    (∀ k : Key, k.name ≠ "AMOUNT") ∧
      ofSpec (.object [("$not", .object [("AMOUNT", .null)])]) =
        .error ⟨.unknownKey "AMOUNT" (some (.leaf .amount)), [.key .not]⟩ := by
  have hkey : ∀ k : Key, k.name ≠ "AMOUNT" := by
    rintro ((_ | _) | _ | (_ | _ | _ | _ | _ | _ | _ | _)) <;> decide
  have honly : ∀ k : Key, Text.lowercase k.name.toList = Text.lowercase "AMOUNT".toList →
      k = .leaf .amount := by
    rintro ((_ | _) | _ | (_ | _ | _ | _ | _ | _ | _ | _)) <;> decide
  obtain ⟨suggestion, -, hiff, -, -, hcase⟩ := ofSpec_unknownKey hkey
  obtain ⟨near, rfl, hnear⟩ := hcase (.leaf .amount) (by decide)
  obtain rfl := honly near hnear
  exact ⟨hkey, (hiff _ _ _).mpr ⟨rfl, leftmost_nil.not, .null, rfl⟩⟩

end Condition

end ReceiptRules

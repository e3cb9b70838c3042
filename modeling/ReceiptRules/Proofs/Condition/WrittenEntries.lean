import Mathlib.Algebra.BigOperators.Group.List.Basic
import ReceiptRules.Proofs.Condition.Grammar
import ReceiptRules.Proofs.Reading.Document

/-!
# Entries that are written and conditions that are read

A condition that is read from a text has at most as many nodes as there are entries in the spec objects
that were written. Entries are lost exactly if some spec object has a key twice: the reader sees the last
of them only (`size_le_written`).
-/

namespace ReceiptRules

open Json5

theorem forall₂_comp {α β γ : Type} {R : α → β → Prop} {S : β → γ → Prop} {xs : List α} {ys : List β}
    {zs : List γ} (h : List.Forall₂ R xs ys) (h' : List.Forall₂ S ys zs) :
    List.Forall₂ (fun x z => ∃ y, R x y ∧ S y z) xs zs := by
  induction h generalizing zs with
  | nil =>
    cases h'
    exact .nil
  | cons hR _ ih =>
    cases h' with
    | cons hS h' => exact .cons ⟨_, hR, hS⟩ (ih h')

theorem exists_of_forall₂_left {α β : Type} {R : α → β → Prop} {xs : List α} {ys : List β}
    (h : List.Forall₂ R xs ys) {x : α} (hx : x ∈ xs) : ∃ y ∈ ys, R x y := by
  induction h with
  | nil => cases hx
  | cons hR _ ih =>
    rcases List.mem_cons.mp hx with rfl | hx
    · exact ⟨_, List.mem_cons_self, hR⟩
    · obtain ⟨y, hy, hR⟩ := ih hx
      exact ⟨y, List.mem_cons_of_mem _ hy, hR⟩

/-! ## Written spec objects -/

namespace Json5.Node

/-- The key of an entry of a spec object. -/
def specKey? (key : List Component) : Option Key := (decodeString key).toOption.bind Key.ofName?

mutual

/-- The entries of each spec object that is written in a tree: of the tree itself, and of the specs under
its combinators and negations. Of repeated keys all count. -/
def specObjects : Node → List (List (List Component × Node))
  | object entries => entries :: specObjectsBelow entries
  | _ => []

/-- The spec objects in a list of specs. -/
def specObjectsOfList : Node → List (List (List Component × Node))
  | array items => specObjectsOfItems items
  | _ => []

def specObjectsOfItems : List Node → List (List (List Component × Node))
  | [] => []
  | item :: items => item.specObjects ++ specObjectsOfItems items

def specObjectsBelow : List (List Component × Node) → List (List (List Component × Node))
  | [] => []
  | (key, value) :: entries =>
    (match specKey? key with
      | some .not => value.specObjects
      | some (.combinator _) => value.specObjectsOfList
      | _ => []) ++ specObjectsBelow entries

end

/-- The number of entries in the spec objects that are written in a tree. -/
def written (n : Node) : ℕ := (n.specObjects.map List.length).sum

/-- The specs under a key. -/
def specsUnder : Key → Node → List Node
  | .not, value => [value]
  | .combinator _, array items => items
  | _, _ => []

theorem specObjectsOfItems_eq (items : List Node) :
    specObjectsOfItems items = items.flatMap specObjects := by
  induction items with
  | nil => rfl
  | cons item items ih => simp [specObjectsOfItems, ih]

theorem specObjectsBelow_cons {key : List Component} {k : Key} (h : decodeString key = .ok k.name)
    (value : Node) (entries : List (List Component × Node)) :
    specObjectsBelow ((key, value) :: entries) =
      (value.specsUnder k).flatMap specObjects ++ specObjectsBelow entries := by
  have hk : specKey? key = some k := by
    simp [specKey?, h, Except.toOption]
  rw [specObjectsBelow, hk]
  cases k with
  | not => simp [specsUnder]
  | leaf k => simp [specsUnder]
  | combinator op => cases value <;> simp [specsUnder, specObjectsOfList, specObjectsOfItems_eq]

theorem sum_length_flatMap_specObjects (nodes : List Node) :
    ((nodes.flatMap specObjects).map List.length).sum = (nodes.map written).sum := by
  induction nodes with
  | nil => rfl
  | cons n nodes ih => simp [ih, written]

theorem specObjectsBelow_append (entries more : List (List Component × Node)) :
    specObjectsBelow (entries ++ more) = specObjectsBelow entries ++ specObjectsBelow more := by
  induction entries with
  | nil => rfl
  | cons e entries ih =>
    obtain ⟨key, value⟩ := e
    simp [specObjectsBelow, ih]

theorem itemsToJson_eq_ok_iff {items : List Node} {js : List Json} :
    itemsToJson items = .ok js ↔ List.Forall₂ (fun n j => n.toJson = .ok j) items js := by
  induction items generalizing js with
  | nil => simp [itemsToJson, eq_comm]
  | cons item items ih =>
    simp only [itemsToJson, bind_eq_ok, pure_eq_ok, ih, List.forall₂_cons_left_iff]
    constructor
    · intro h
      rcases h with ⟨j, hj, js, hjs, rfl⟩
      exact ⟨j, js, hj, hjs, rfl⟩
    · intro h
      rcases h with ⟨j, js, hj, hjs, rfl⟩
      exact ⟨j, hj, js, hjs, rfl⟩

theorem entriesToJson_eq_ok_iff {entries : List (List Component × Node)}
    {es : List (String × Json)} :
    entriesToJson entries = .ok es ↔
      List.Forall₂ (fun e e' => decodeString e.1 = .ok e'.1 ∧ e.2.toJson = .ok e'.2) entries es := by
  induction entries generalizing es with
  | nil => simp [entriesToJson, eq_comm]
  | cons e entries ih =>
    obtain ⟨key, value⟩ := e
    simp only [entriesToJson, bind_eq_ok, pure_eq_ok, ih, List.forall₂_cons_left_iff]
    constructor
    · intro h
      rcases h with ⟨k, hk, j, hj, es, hes, rfl⟩
      exact ⟨(k, j), es, ⟨hk, hj⟩, hes, rfl⟩
    · intro h
      rcases h with ⟨⟨k, j⟩, es, ⟨hk, hj⟩, hes, rfl⟩
      exact ⟨k, hk, j, hj, es, hes, rfl⟩

/-- The value of a tree is an object with one entry only if all entries that are written have one key; the
last of them counts. -/
theorem exists_of_toJson_eq_object {n : Node} {name : String} {j : Json}
    (h : n.toJson = .ok (.object [(name, j)])) :
    ∃ before key value, n = object (before ++ [(key, value)]) ∧
      (∀ e ∈ before ++ [(key, value)], decodeString e.1 = .ok name) ∧ value.toJson = .ok j := by
  generalize hvalue : Json.object [(name, j)] = w at h
  cases shape_of_toJson h with
  | @object entries es hes =>
    obtain ⟨hkeys, before, rfl⟩ := Json.exists_of_ofEntries_eq hvalue.symm
    have hpairs := entriesToJson_eq_ok_iff.mp hes
    have hall : ∀ e ∈ entries, decodeString e.1 = .ok name := by
      intro e he
      obtain ⟨e', he', hkey, -⟩ := exists_of_forall₂_left hpairs he
      rw [hkey, hkeys e' he']
    rw [← List.forall₂_reverse_iff, List.reverse_append, List.reverse_singleton,
      List.singleton_append, List.forall₂_cons_right_iff] at hpairs
    obtain ⟨⟨key, value⟩, rest, ⟨-, hvalue⟩, -, hreverse⟩ := hpairs
    have hentries : entries = rest.reverse ++ [(key, value)] := by
      rw [← List.reverse_reverse entries, hreverse, List.reverse_cons]
    subst hentries
    exact ⟨rest.reverse, key, value, rfl, hall, hvalue⟩
  | number hj => rcases hj with rfl | ⟨m, rfl⟩ <;> cases hvalue
  | _ => cases hvalue

theorem exists_of_toJson_eq_array {n : Node} {js : List Json} (h : n.toJson = .ok (.array js)) :
    ∃ items, n = array items ∧ List.Forall₂ (fun n j => n.toJson = .ok j) items js := by
  generalize hvalue : Json.array js = w at h
  cases shape_of_toJson h with
  | @array items js' hjs =>
    obtain rfl := Json.array.inj hvalue
    exact ⟨items, rfl, itemsToJson_eq_ok_iff.mp hjs⟩
  | number hj => rcases hj with rfl | ⟨m, rfl⟩ <;> cases hvalue
  | _ => cases hvalue

end Json5.Node

/-! ## Nodes of conditions -/

namespace Condition

mutual

/-- The number of nodes of a condition. -/
def size : Condition → ℕ
  | combination _ cs => 1 + sizes cs
  | not c => 1 + c.size
  | leaf _ => 1

def sizes : List Condition → ℕ
  | [] => 0
  | c :: cs => c.size + sizes cs

end

/-- The conditions that a condition is made of. -/
def children : Condition → List Condition
  | combination _ cs => cs
  | not c => [c]
  | leaf _ => []

theorem sizes_eq (cs : List Condition) : sizes cs = (cs.map size).sum := by
  induction cs with
  | nil => rfl
  | cons c cs ih => simp [sizes, ih]

theorem size_eq (c : Condition) : c.size = 1 + (c.children.map size).sum := by
  cases c with
  | combination op cs => rw [size, sizes_eq, children]
  | not c => simp [size, children]
  | leaf l => rfl

/-- Trees that stand for a condition. -/
def ReadFrom (n : Node) (c : Condition) : Prop := ∃ j, n.toJson = .ok j ∧ Denotes j c

/-- All entries of a spec object that is read have one key. Below the last of them are the specs of the
children. -/
theorem exists_of_readFrom {n : Node} {c : Condition} (h : ReadFrom n c) :
    ∃ (k : Key) (before : List (List Component × Node)) (key : List Component) (value : Node),
      n = .object (before ++ [(key, value)]) ∧
        (∀ e ∈ before ++ [(key, value)], decodeString e.1 = .ok k.name) ∧
        List.Forall₂ ReadFrom (value.specsUnder k) c.children := by
  obtain ⟨j, hj, hc⟩ := h
  obtain ⟨k, w, rfl, hunder⟩ := denotes_iff.mp hc
  obtain ⟨before, key, value, rfl, hkeys, hvalue⟩ := Node.exists_of_toJson_eq_object hj
  refine ⟨k, before, key, value, rfl, hkeys, ?_⟩
  cases k with
  | combinator op =>
    obtain ⟨items, cs, rfl, members, rfl⟩ := hunder
    obtain ⟨nodes, rfl, hnodes⟩ := Node.exists_of_toJson_eq_array hvalue
    exact forall₂_comp hnodes members
  | not =>
    obtain ⟨d, inner, rfl⟩ := hunder
    exact .cons ⟨w, hvalue, inner⟩ .nil
  | leaf k =>
    obtain ⟨l, -, rfl⟩ := hunder
    exact .nil

/-! ## Counting -/

/-- A property of entries under one key that holds of a single entry and of no more. -/
def Sole (P : List (List Component × Node) → Prop) : Prop :=
  ∀ (k : Key) entries, entries ≠ [] → (∀ e ∈ entries, decodeString e.1 = .ok k.name) →
    (P entries ↔ entries.length = 1)

variable {P : List (List Component × Node) → Prop} {n : Node} {c : Condition}

/-- No node of a condition goes without an entry, and no entry goes without a node exactly if each spec
object has what `P` says of its entries. -/
def Counted (P : List (List Component × Node) → Prop) (n : Node) (c : Condition) : Prop :=
  c.size ≤ n.written ∧ (c.size = n.written ↔ ∀ entries ∈ n.specObjects, P entries)

theorem sum_size_of_forall₂ {nodes : List Node} {cs : List Condition}
    (h : List.Forall₂ (Counted P) nodes cs) :
    (cs.map size).sum ≤ (nodes.map Node.written).sum ∧
      ((cs.map size).sum = (nodes.map Node.written).sum ↔
        ∀ entries ∈ nodes.flatMap Node.specObjects, P entries) := by
  induction h with
  | nil => simp
  | @cons n c nodes cs hn _ ih =>
    obtain ⟨hle, heq⟩ := hn
    obtain ⟨hles, heqs⟩ := ih
    have hsum : c.size + (cs.map size).sum = n.written + (nodes.map Node.written).sum ↔
        c.size = n.written ∧ (cs.map size).sum = (nodes.map Node.written).sum := by omega
    simp only [List.map_cons, List.sum_cons, List.flatMap_cons, List.forall_mem_append, hsum, heq, heqs,
      and_true]
    omega

theorem counted_of_children (hP : Sole P) (h : ReadFrom n c)
    (ih : ∀ d ∈ c.children, ∀ m, ReadFrom m d → Counted P m d) : Counted P n c := by
  obtain ⟨k, before, key, value, rfl, hkeys, hspecs⟩ := exists_of_readFrom h
  have hkey : decodeString key = .ok k.name := hkeys (key, value) (by simp)
  have hcounted : List.Forall₂ (Counted P) (value.specsUnder k) c.children :=
    (((List.forall₂_and_left _ _).mpr ⟨ih, hspecs.flip⟩).imp fun _ m hm => hm.1 m hm.2).flip
  obtain ⟨hle, heq⟩ := sum_size_of_forall₂ hcounted
  have hobjects : (Node.object (before ++ [(key, value)])).specObjects =
      (before ++ [(key, value)]) ::
        (Node.specObjectsBelow before ++ (value.specsUnder k).flatMap Node.specObjects) := by
    rw [Node.specObjects, Node.specObjectsBelow_append, Node.specObjectsBelow_cons hkey]
    simp [Node.specObjectsBelow]
  have hwritten : (Node.object (before ++ [(key, value)])).written =
      before.length + 1 + (((Node.specObjectsBelow before).map List.length).sum +
        ((value.specsUnder k).map Node.written).sum) := by
    rw [Node.written, hobjects, ← Node.sum_length_flatMap_specObjects]
    simp
  have hsole : P (before ++ [(key, value)]) ↔ before = [] := by
    rw [hP k _ (by simp) hkeys]
    simp
  rw [Counted, size_eq, hwritten, hobjects, List.forall_mem_cons, hsole, List.forall_mem_append, ← heq]
  refine ⟨by omega, ?_⟩
  constructor
  · intro hsize
    have hbefore : before = [] := List.eq_nil_of_length_eq_zero (by omega)
    subst hbefore
    exact ⟨rfl, by simp [Node.specObjectsBelow], by omega⟩
  · intro h
    rcases h with ⟨rfl, -, hsum⟩
    simp [Node.specObjectsBelow, hsum]

theorem counted (hP : Sole P) (h : ReadFrom n c) : Counted P n c := by
  induction c using Condition.induction generalizing n with
  | combination op cs ih => exact counted_of_children hP h fun d hd m hm => ih d hd hm
  | not c ih =>
    refine counted_of_children hP h fun d hd m hm => ?_
    obtain rfl := List.mem_singleton.mp hd
    exact ih hm
  | leaf l => exact counted_of_children hP h fun d hd => by cases hd

theorem sole_length : Sole fun entries => entries.length = 1 := fun _ _ _ _ => Iff.rfl

theorem sole_nodup : Sole fun entries => (entries.map fun e => decodeString e.1).Nodup := by
  intro k entries hne hkeys
  have hconst : entries.map (fun e => decodeString e.1) = List.replicate entries.length (.ok k.name) := by
    rw [← List.map_const']
    exact List.map_congr_left hkeys
  have hpos : 0 < entries.length := List.length_pos_iff.mpr hne
  simp only [hconst, List.nodup_replicate]
  omega

theorem ofText_eq_ok_iff {text : String} :
    ofText text = .ok c ↔
      text.toList.all Text.isBlank = false ∧
        ∃ n j, Node.ofText? text = some n ∧ n.toJson = .ok j ∧ ofSpec j = .ok c := by
  cases hblank : text.toList.all Text.isBlank with
  | true => simp [ofText, hblank]
  | false =>
    cases hn : Node.ofText? text with
    | none => simp [ofText, hblank, valueOfText, hn]
    | some n => cases hj : n.toJson <;> simp [ofText, hblank, valueOfText, hn, hj]

/-- A condition that is read from a text has no more nodes than there are entries in the spec objects of
the text. It has as many exactly if each spec object is written with one entry, and exactly if no spec
object has a key twice. -/
theorem size_le_written {text : String} (h : ofText text = .ok c) :
    ∃ n, Node.ofText? text = some n ∧ c.size ≤ n.written ∧
      (c.size = n.written ↔ ∀ entries ∈ n.specObjects, entries.length = 1) ∧
      (c.size = n.written ↔
        ∀ entries ∈ n.specObjects, (entries.map fun e => decodeString e.1).Nodup) := by
  obtain ⟨-, n, j, hn, hj, hc⟩ := ofText_eq_ok_iff.mp h
  have hread : ReadFrom n c := ⟨j, hj, ofSpec_eq_ok_iff.mp hc⟩
  obtain ⟨hle, hlength⟩ := counted sole_length hread
  exact ⟨n, hn, hle, hlength, (counted sole_nodup hread).2⟩

/-- A text with an entry for each node of its condition. -/
def plainText : String := "\x7b$not: \x7bcurrency: 'EUR'\x7d\x7d"

theorem ofText_plainText : ofText plainText = .ok (.not (.leaf (.currency "EUR"))) := by
  have htokens : tokenize? plainText.toList = some [.openBrace, .name ("$not".toList.map .literal),
      .colon, .openBrace, .name ("currency".toList.map .literal), .colon,
      .string ("EUR".toList.map .literal), .closeBrace, .closeBrace] := by decide +kernel
  rw [ofText_eq_ok_iff, Node.ofText?, htokens]
  exact ⟨rfl, _, _, rfl, rfl, rfl⟩

theorem size_le_written_plainText :
    ofText plainText = .ok (.not (.leaf (.currency "EUR"))) ∧
      ∃ n, Node.ofText? plainText = some n ∧ size (.not (.leaf (.currency "EUR"))) ≤ n.written ∧
        (size (.not (.leaf (.currency "EUR"))) = n.written ↔
          ∀ entries ∈ n.specObjects, entries.length = 1) ∧
        (size (.not (.leaf (.currency "EUR"))) = n.written ↔
          ∀ entries ∈ n.specObjects, (entries.map fun e => decodeString e.1).Nodup) :=
  ⟨ofText_plainText, size_le_written ofText_plainText⟩

/-- A text in which the key of a spec is written twice. -/
def repeatedText : String := "\x7bcurrency: 'EUR', currency: 'USD'\x7d"

def repeatedNode : Node :=
  .object [("currency".toList.map .literal, .string ("EUR".toList.map .literal)),
    ("currency".toList.map .literal, .string ("USD".toList.map .literal))]

/-- Of two entries with one key the first is lost. -/
theorem entry_lost :
    ofText repeatedText = .ok (.leaf (.currency "USD")) ∧
      Node.ofText? repeatedText = some repeatedNode ∧
      size (.leaf (.currency "USD")) = 1 ∧ repeatedNode.written = 2 := by
  have htokens : tokenize? repeatedText.toList = some [.openBrace,
      .name ("currency".toList.map .literal), .colon, .string ("EUR".toList.map .literal), .comma,
      .name ("currency".toList.map .literal), .colon, .string ("USD".toList.map .literal),
      .closeBrace] := by decide +kernel
  have hnode : Node.ofText? repeatedText = some repeatedNode := by
    rw [Node.ofText?, htokens]
    rfl
  exact ⟨ofText_eq_ok_iff.mpr ⟨rfl, repeatedNode, _, hnode, rfl, rfl⟩, hnode, rfl, rfl⟩

end Condition

end ReceiptRules

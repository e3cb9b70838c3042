import Mathlib.Tactic.Common
import ReceiptRules.Regex.Search

/-!
# Where matches end

Matching goes from place to place along a line and never back: whatever is true of a place and goes over
from each place to the next one is true of every place where a match from there can end
(`Forward.ends`). This holds of each round of a repetition, and of the tables in which rounds are kept, so
it is an induction over expressions. For a search through a line it means that the rest of the line after
a match is a part of the line (`suffix_of_mem_matchEnds`).
-/

namespace ReceiptRules.Regex

/-- A property of places that goes over from each place to the next one. -/
def Forward (P : Cursor → Prop) : Prop :=
  ∀ previous x rest, P ⟨previous, x :: rest⟩ → P ⟨some x, rest⟩

variable {P : Cursor → Prop} {step : Cursor → List Cursor} {previous : Option Char} {line : List Char}
  {greedy : Bool} {c : Cursor} {cs : List Cursor} {table : List (List Cursor)}

theorem Forward.places (hP : Forward P) (h : P ⟨previous, line⟩) : ∀ d ∈ places previous line, P d := by
  induction line generalizing previous with
  | nil => simpa [Regex.places] using h
  | cons x rest ih =>
    rw [Regex.places, List.forall_mem_cons]
    exact ⟨h, ih (hP previous x rest h)⟩

/-! ## Lists of places without repetitions -/

theorem mem_of_mem_distinctEntries {e : ℕ × Cursor} {es : List (ℕ × Cursor)}
    (h : e ∈ distinctEntries es) : e ∈ es := by
  induction es with
  | nil => exact h
  | cons f es ih =>
    rw [distinctEntries, List.mem_cons] at h
    rcases h with rfl | h
    · exact List.mem_cons_self
    · exact List.mem_cons_of_mem f (ih (List.mem_filter.mp h).1)

theorem mem_of_mem_distinct (h : c ∈ distinct cs) : c ∈ cs := by
  obtain ⟨⟨n, d⟩, hentry, rfl⟩ := List.mem_map.mp h
  obtain ⟨d', hd', heq⟩ := List.mem_map.mp (mem_of_mem_distinctEntries hentry)
  cases heq
  exact hd'

theorem forall_mem_distinct (h : ∀ d ∈ cs, P d) : ∀ d ∈ distinct cs, P d :=
  fun d hd => h d (mem_of_mem_distinct hd)

theorem forall_mem_prefer {more fewer : List Cursor} (hmore : ∀ d ∈ more, P d)
    (hfewer : ∀ d ∈ fewer, P d) : ∀ d ∈ prefer greedy more fewer, P d := by
  apply forall_mem_distinct
  intro d hd
  cases greedy
  · exact (List.mem_append.mp hd).elim (hfewer d) (hmore d)
  · exact (List.mem_append.mp hd).elim (hmore d) (hfewer d)

/-! ## Repetition -/

theorem forall_mem_flatMap_step (hstep : ∀ c, P c → ∀ e ∈ step c, P e) (hcs : ∀ c ∈ cs, P c) :
    ∀ e ∈ cs.flatMap step, P e := by
  intro e he
  obtain ⟨c, hc, he⟩ := List.mem_flatMap.mp he
  exact hstep c (hcs c hc) e he

theorem forall_mem_rounds (hstep : ∀ c, P c → ∀ e ∈ step c, P e) (n : ℕ) (hcs : ∀ c ∈ cs, P c) :
    ∀ e ∈ rounds step n cs, P e := by
  induction n generalizing cs with
  | zero => exact hcs
  | succ n ih =>
    simp only [rounds]
    split
    · exact hcs
    · exact ih (forall_mem_distinct (forall_mem_flatMap_step hstep hcs))

theorem forall_mem_tableEntry (h : ∀ row ∈ table, ∀ e ∈ row, P e) : ∀ e ∈ tableEntry table c, P e := by
  rw [tableEntry]
  cases hrow : table[table.length - 1 - c.rest.length]? with
  | none => simp
  | some row => exact h row (List.mem_of_getElem? hrow)

/-- Each row lists places of the line only, whatever the step does. -/
theorem forall_mem_starTable (hline : ∀ d ∈ places previous line, P d) :
    ∀ row ∈ starTable step greedy previous line, ∀ e ∈ row, P e := by
  induction line generalizing previous with
  | nil => simpa [starTable, places] using hline
  | cons x rest ih =>
    rw [places, List.forall_mem_cons] at hline
    obtain ⟨hhere, hrest⟩ := hline
    have hlater := ih hrest
    simp only [starTable, List.forall_mem_cons]
    refine ⟨forall_mem_prefer ?_ (by simpa using hhere), hlater⟩
    intro e he
    obtain ⟨d, -, he⟩ := List.mem_flatMap.mp he
    split at he
    · rw [List.mem_singleton.mp he]
      exact hhere
    · exact forall_mem_tableEntry hlater e he

theorem forall_mem_plus (hstep : ∀ c, P c → ∀ e ∈ step c, P e)
    (hline : ∀ d ∈ places c.previous c.rest, P d) (hc : P c) : ∀ e ∈ plus step greedy c, P e := by
  apply forall_mem_distinct
  intro e he
  obtain ⟨d, hd, he⟩ := List.mem_flatMap.mp he
  split at he
  · rw [List.mem_singleton.mp he]
    exact hstep c hc d hd
  · exact forall_mem_tableEntry (forall_mem_starTable hline) e he

theorem forall_mem_upToTable (n : ℕ) (hcs : ∀ c ∈ cs, P c) (h : ∀ row ∈ table, ∀ e ∈ row, P e) :
    ∀ row ∈ upToTable step greedy cs n table, ∀ e ∈ row, P e := by
  induction n generalizing table with
  | zero => exact h
  | succ n ih =>
    simp only [upToTable]
    split
    · exact h
    · apply ih
      intro row hrow
      obtain ⟨c, hc, rfl⟩ := List.mem_map.mp hrow
      refine forall_mem_prefer ?_ (by simpa using hcs c hc)
      intro e he
      obtain ⟨d, -, he⟩ := List.mem_flatMap.mp he
      exact forall_mem_tableEntry h e he

theorem forall_mem_upTo (n : ℕ) (hline : ∀ d ∈ places c.previous c.rest, P d) :
    ∀ e ∈ upTo step greedy n c, P e := by
  apply forall_mem_tableEntry
  apply forall_mem_upToTable n hline
  intro row hrow
  obtain ⟨d, hd, rfl⟩ := List.mem_map.mp hrow
  simpa using hline d hd

theorem Forward.iterations (hP : Forward P) (hstep : ∀ c, P c → ∀ e ∈ step c, P e) (min : ℕ)
    (max : Option ℕ) (hc : P c) : ∀ e ∈ iterations step min max greedy c, P e := by
  have hrounds : ∀ n, ∀ d ∈ rounds step n [c], P d := fun n =>
    forall_mem_rounds hstep n (by simpa using hc)
  have hplus : ∀ d, P d → ∀ e ∈ plus step greedy d, P e := fun d hd =>
    forall_mem_plus hstep (hP.places hd) hd
  cases max with
  | some max =>
    apply forall_mem_distinct
    intro e he
    obtain ⟨d, hd, he⟩ := List.mem_flatMap.mp he
    exact forall_mem_upTo _ (hP.places (hrounds min d hd)) e he
  | none =>
    simp only [Regex.iterations]
    split
    · exact forall_mem_prefer (hplus c hc) (by simpa using hc)
    · exact forall_mem_distinct (forall_mem_flatMap_step hplus (hrounds (min - 1)))

/-! ## Expressions and searches -/

/-- What goes over to the next place is true of the ends of all matches. -/
theorem Forward.ends (hP : Forward P) (r : Regex) : ∀ c, P c → ∀ e ∈ r.ends c, P e := by
  induction r with
  | empty =>
    intro c hc
    simpa [Regex.ends] using hc
  | set s =>
    rintro ⟨previous, _ | ⟨x, rest⟩⟩ hc
    · simp [Regex.ends]
    · have hnext := hP previous x rest hc
      simp only [Regex.ends]
      split
      · simpa using hnext
      · simp
  | look a =>
    intro c hc
    simp only [Regex.ends]
    split
    · simpa using hc
    · simp
  | seq a b iha ihb =>
    intro c hc
    rw [Regex.ends]
    exact forall_mem_distinct (forall_mem_flatMap_step ihb (iha c hc))
  | alt a b iha ihb =>
    intro c hc
    rw [Regex.ends]
    apply forall_mem_distinct
    intro e he
    exact (List.mem_append.mp he).elim (iha c hc e) (ihb c hc e)
  | iterate min max greedy r ih =>
    intro c hc
    rw [Regex.ends]
    exact hP.iterations ih min max hc

variable {r : Regex} {s e : Cursor} {afterMatch : Bool}

theorem Forward.firstMatch? (hP : Forward P) (h : P ⟨previous, line⟩)
    (hmatch : r.firstMatch? previous line = some (s, e)) : P e := by
  have hend : ∀ {c e}, P c → r.end? c = some e → P e := fun {c e} hc he =>
    hP.ends r c hc e (List.mem_of_head? he)
  induction line generalizing previous with
  | nil =>
    rw [Regex.firstMatch?, Option.map_eq_some_iff] at hmatch
    obtain ⟨e', he', heq⟩ := hmatch
    cases heq
    exact hend h he'
  | cons x rest ih =>
    rw [Regex.firstMatch?] at hmatch
    split at hmatch
    · next e' he' =>
      cases hmatch
      exact hend h he'
    · exact ih (hP previous x rest h) hmatch

theorem Forward.nextMatch? (hP : Forward P) (hc : P c)
    (hmatch : r.nextMatch? afterMatch c = some (s, e)) : P e := by
  rw [Regex.nextMatch?] at hmatch
  split at hmatch
  · cases hmatch
  · next s' e' hfirst =>
    split at hmatch
    · -- An empty match right after another one does not count; the search goes on at the next place.
      obtain ⟨d, hd, hmatch⟩ := Option.bind_eq_some_iff.mp hmatch
      obtain ⟨previous, _ | ⟨x, rest⟩⟩ := c
      · cases hd
      · cases hd
        exact hP.firstMatch? (hP previous x rest hc) hmatch
    · cases hmatch
      exact hP.firstMatch? hc hfirst

theorem Forward.matchEndsFrom (hP : Forward P) (fuel : ℕ) (hc : P c) :
    ∀ e ∈ r.matchEndsFrom fuel afterMatch c, P e := by
  induction fuel generalizing afterMatch c with
  | zero => simp [Regex.matchEndsFrom]
  | succ fuel ih =>
    rw [Regex.matchEndsFrom]
    split
    · simp
    · next s e hmatch =>
      have he := hP.nextMatch? hc hmatch
      exact List.forall_mem_cons.mpr ⟨he, ih he⟩

/-- What is left of a line after a match is the end of the line. -/
theorem suffix_of_mem_matchEnds (h : e ∈ r.matchEnds line) : e.rest <:+ line := by
  have hP : Forward fun d => d.rest <:+ line := fun _ x rest hd => (List.suffix_cons x rest).trans hd
  exact hP.matchEndsFrom _ List.suffix_rfl e h

/-- The search finds a match if there is one. -/
theorem matchEnds_eq_nil_iff (r : Regex) (line : List Char) :
    r.matchEnds line = [] ↔ r.isMatch line = false := by
  have hnext : r.nextMatch? false (Cursor.start line) = r.firstMatch? none line := by
    simp only [nextMatch?, Cursor.start, Bool.false_and, Bool.false_eq_true, if_false]
    cases r.firstMatch? none line <;> rfl
  rw [matchEnds, matchEndsFrom, hnext, isMatch]
  cases r.firstMatch? none line <;> simp

end ReceiptRules.Regex

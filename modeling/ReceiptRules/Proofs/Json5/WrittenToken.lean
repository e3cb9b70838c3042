import ReceiptRules.Proofs.Json5.NodeTokens
import ReceiptRules.Proofs.Json5.WrittenNumber
import ReceiptRules.Proofs.Json5.WrittenString

/-!
# Tokens of written JSON

What the pieces of a written value do to the reading of tokens: the marks, blanks, strings, numbers and
words are each read in one step, in front of whatever comes after them. `Lexes` says what a text is read
as, and each step adds to it at the front.
-/

namespace ReceiptRules.Json

open Json5

/-! ## Reading on -/

/-- What the tokens of a text are, however much fuel there is beyond its length. -/
def Lexes (cs : List Char) (r : Option (List Token)) : Prop :=
  ∀ fuel, cs.length ≤ fuel → readTokens? fuel cs = r

variable {c : Char} {cs rest : List Char} {r : Option (List Token)} {t : Token}

theorem lexes_nil : Lexes [] (some []) := by
  intro fuel _
  cases fuel <;> rfl

theorem Lexes.tokenize? (h : Lexes cs r) : tokenize? cs = r := h cs.length le_rfl

theorem readTokens?_cons (hslash : c ≠ '/') (fuel : ℕ) :
    readTokens? (fuel + 1) (c :: rest) =
      if isSpace c then readTokens? fuel rest
      else (readToken? c rest).bind fun (t, rest) => (readTokens? fuel rest).map (t :: ·) := by
  rw [readTokens?]
  · cases readToken? c rest with
    | none => rfl
    | some read =>
      obtain ⟨t, rest⟩ := read
      cases hr : readTokens? fuel rest <;> simp [hr]
  · simp [hslash]
  · simp [hslash]

/-- Reading on after a space or a token, which take at least a character. -/
theorem Lexes.cons (hslash : c ≠ '/')
    (h : ∀ fuel, rest.length ≤ fuel →
      (if isSpace c then readTokens? fuel rest
        else (readToken? c rest).bind fun (t, rest) => (readTokens? fuel rest).map (t :: ·)) = r) :
    Lexes (c :: rest) r := by
  intro fuel hfuel
  obtain ⟨fuel, rfl⟩ : ∃ m, fuel = m + 1 := ⟨fuel - 1, by simp at hfuel; omega⟩
  rw [readTokens?_cons hslash, h fuel (by simpa using hfuel)]

theorem Lexes.space (hc : isSpace c = true) (h : Lexes rest r) : Lexes (c :: rest) r := by
  have hslash : c ≠ '/' := by
    rintro rfl
    exact absurd hc (by decide)
  exact .cons hslash fun fuel hfuel => by rw [if_pos hc, h fuel hfuel]

/-- Tokens in front of the tokens of what comes after them; none if one of the strings among them cannot
be read. -/
def tokensBefore (texts : List String) (ts : List Token) (r : Option (List Token)) :
    Option (List Token) :=
  if ∀ s ∈ texts, Plain s then r.map (ts ++ ·) else none

theorem tokensBefore_tokensBefore (texts more : List String) (ts us : List Token) :
    tokensBefore texts ts (tokensBefore more us r) = tokensBefore (texts ++ more) (ts ++ us) r := by
  by_cases htexts : ∀ s ∈ texts, Plain s
  · by_cases hmore : ∀ s ∈ more, Plain s
    · have hall : ∀ s ∈ texts ++ more, Plain s := List.forall_mem_append.mpr ⟨htexts, hmore⟩
      rw [tokensBefore, tokensBefore, tokensBefore, if_pos htexts, if_pos hmore, if_pos hall]
      simp [Function.comp_def]
    · have hall : ¬ ∀ s ∈ texts ++ more, Plain s := fun h => hmore (List.forall_mem_append.mp h).2
      rw [tokensBefore, tokensBefore, tokensBefore, if_pos htexts, if_neg hmore, if_neg hall]
      rfl
  · have hall : ¬ ∀ s ∈ texts ++ more, Plain s := fun h => htexts (List.forall_mem_append.mp h).1
    rw [tokensBefore, if_neg htexts, tokensBefore, if_neg hall]

theorem Lexes.token (hspace : isSpace c = false) (hslash : c ≠ '/')
    (hread : readToken? c (cs ++ rest) = some (t, rest)) (h : Lexes rest r) :
    Lexes (c :: (cs ++ rest)) (tokensBefore [] [t] r) := by
  refine .cons hslash fun fuel hfuel => ?_
  rw [hspace, hread, ← h fuel (by simp at hfuel; omega)]
  simp [tokensBefore]

theorem Lexes.mark (hspace : isSpace c = false) (hslash : c ≠ '/') (hmark : markToken? c = some t)
    (h : Lexes rest r) : Lexes (c :: rest) (tokensBefore [] [t] r) := by
  have hread : readToken? c ([] ++ rest) = some (t, rest) := by simp [readToken?, hmark]
  exact h.token hspace hslash hread

theorem Lexes.lineBreak (depth : Option ℕ) (h : Lexes rest r) : Lexes (lineBreak depth ++ rest) r := by
  cases depth with
  | none => exact h
  | some depth =>
    have hspaces : ∀ n, Lexes (List.replicate n ' ' ++ rest) r := by
      intro n
      induction n with
      | zero => exact h
      | succ n ih => exact .space rfl ih
    exact .space rfl (hspaces _)

theorem Lexes.colon (depth : Option ℕ) (h : Lexes rest r) :
    Lexes (colon depth ++ rest) (tokensBefore [] [.colon] r) := by
  cases depth with
  | none => exact h.mark rfl (by decide) rfl
  | some depth => exact .mark rfl (by decide) rfl (.space rfl h)

/-- A string is a token if it is plain, and ends the reading otherwise. -/
theorem Lexes.string (s : String) (h : Lexes rest r) :
    Lexes (quotedString s ++ rest) (tokensBefore [s] [.string (components s)] r) := by
  have hread := readToken?_quoted s rest
  rw [quotedString]
  simp only [List.cons_append, List.append_assoc, List.nil_append]
  refine .cons (by decide) fun fuel hfuel => ?_
  rw [if_neg (by decide), hread, ← h fuel (by simp at hfuel; omega)]
  by_cases hs : Plain s <;> simp [tokensBefore, hs]

/-- The rest of a name, up to where nothing can be part of it. -/
theorem readNameRest_append {name : List Char}
    (hname : (name.all fun c => c != '\\' && isNamePart c) = true)
    (hrest : readNameComponent? false rest = none) {fuel : ℕ} (h : name.length ≤ fuel) :
    readNameRest fuel (name ++ rest) = (name.map .literal, rest) := by
  induction name generalizing fuel with
  | nil =>
    cases fuel with
    | zero => rfl
    | succ fuel => rw [List.nil_append, readNameRest, hrest]; rfl
  | cons c name ih =>
    obtain ⟨fuel, rfl⟩ : ∃ m, fuel = m + 1 := ⟨fuel - 1, by simp at h; omega⟩
    simp only [List.all_cons, Bool.and_eq_true, bne_iff_ne] at hname
    obtain ⟨⟨hescape, hpart⟩, hname⟩ := hname
    have hread : readNameComponent? false (c :: (name ++ rest)) = some (.literal c, name ++ rest) := by
      simp [readNameComponent?, hescape, hpart]
    rw [List.cons_append, readNameRest, hread]
    simp only [ih hname (by simpa using h)]
    rfl

theorem readNameComponent?_of_delimited (hrest : Delimited rest) :
    readNameComponent? false rest = none := by
  cases rest with
  | nil => rfl
  | cons c rest => rcases isDelimiter_cases (hrest c rfl) with rfl | rfl | rfl | rfl <;> rfl

/-- A name is a token if what comes after it cannot be part of a name. -/
theorem Lexes.word (hspace : isSpace c = false) (hslash : c ≠ '/')
    (hstart : ∀ more, readToken? c more =
      some (.name (.literal c :: (readNameRest more.length more).1), (readNameRest more.length more).2))
    (hname : (cs.all fun d => d != '\\' && isNamePart d) = true) (hrest : Delimited rest) (h : Lexes rest r) :
    Lexes (c :: (cs ++ rest)) (tokensBefore [] [.word (c :: cs)] r) := by
  have hmore := readNameRest_append hname (readNameComponent?_of_delimited hrest)
    (List.length_append ▸ Nat.le_add_right _ _ : cs.length ≤ (cs ++ rest).length)
  refine .token hspace hslash ?_ h
  rw [hstart, hmore]
  rfl

theorem Lexes.number {text : List Char} (hn : Numeral text) (hrest : Delimited rest)
    (h : Lexes rest r) : Lexes (text ++ rest) (tokensBefore [] [.number text] r) := by
  obtain ⟨c, cs, rfl, hspace, hslash, hread⟩ := hn.readToken? hrest
  exact .token hspace hslash hread h

end ReceiptRules.Json

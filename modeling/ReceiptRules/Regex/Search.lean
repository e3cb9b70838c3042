import ReceiptRules.Regex.Basic

/-!
# Matching and searching

`Regex.ends` lists the places where a match from a given place can end, the preferred one first, each
place once. `Regex.matchEnds` finds the matches in a line from left to right: each starts at the leftmost
possible place after the one before, and ends at the preferred place.
-/

namespace ReceiptRules.Regex

/-- Keeps the first of the entries that have the same number. -/
def distinctEntries : List (Nat × Cursor) → List (Nat × Cursor)
  | [] => []
  | e :: es => e :: (distinctEntries es).filter fun f => f.1 != e.1

/-- Keeps the first of the places that are equal. Places in one line are equal if the same number of
characters is left after them. -/
def distinct (cs : List Cursor) : List Cursor :=
  (distinctEntries (cs.map fun c => (c.rest.length, c))).map Prod.snd

/-- The preferred list of places first. -/
def prefer (greedy : Bool) (more fewer : List Cursor) : List Cursor :=
  distinct (if greedy then more ++ fewer else fewer ++ more)

/-! ## Repetition

A repeated expression is given by its step, the function that lists the ends of one round. -/

/-- The ends of exactly `n` rounds from one of the given places. Once a round leads back to the same
places, so do all further rounds. -/
def rounds (step : Cursor → List Cursor) : (n : Nat) → List Cursor → List Cursor
  | 0, cs => cs
  | n + 1, cs =>
    let next := distinct (cs.flatMap step)
    if next == cs then cs else rounds step n next

/-- The place itself and all places after it. -/
def places (previous : Option Char) : List Char → List Cursor
  | [] => [⟨previous, []⟩]
  | x :: rest => ⟨previous, x :: rest⟩ :: places (some x) rest

/-- Looks up the entry of a place in a table that has one entry for each place of a line, in order, and
that ends with the end of the line. -/
def tableEntry (table : List (List Cursor)) (c : Cursor) : List Cursor :=
  (table[table.length - 1 - c.rest.length]?).getD []

/-- The ends of any number of rounds, from each place of a line. A round that takes no character is
the last one. -/
def starTable (step : Cursor → List Cursor) (greedy : Bool) (previous : Option Char) :
    List Char → List (List Cursor)
  | [] => [[⟨previous, []⟩]]
  | x :: rest =>
    let later := starTable step greedy (some x) rest
    let here : Cursor := ⟨previous, x :: rest⟩
    let more := (step here).flatMap fun c =>
      if c.rest.length = here.rest.length then [here] else tableEntry later c
    prefer greedy more [here] :: later

/-- The ends of at least one round. -/
def plus (step : Cursor → List Cursor) (greedy : Bool) (c : Cursor) : List Cursor :=
  let table := starTable step greedy c.previous c.rest
  distinct ((step c).flatMap fun d =>
    if d.rest.length = c.rest.length then [d] else tableEntry table d)

/-- The ends of any number of rounds. -/
def star (step : Cursor → List Cursor) (greedy : Bool) (c : Cursor) : List Cursor :=
  prefer greedy (plus step greedy c) [c]

/-- The ends of up to `n` rounds from each place of a line, from the table of ends of no round. Once a
round changes nothing, neither do all further rounds. -/
def upToTable (step : Cursor → List Cursor) (greedy : Bool) (line : List Cursor) :
    (n : Nat) → List (List Cursor) → List (List Cursor)
  | 0, table => table
  | n + 1, table =>
    let next := line.map fun c => prefer greedy ((step c).flatMap (tableEntry table)) [c]
    if next == table then table else upToTable step greedy line n next

/-- The ends of up to `n` rounds. -/
def upTo (step : Cursor → List Cursor) (greedy : Bool) (n : Nat) (c : Cursor) : List Cursor :=
  let line := places c.previous c.rest
  tableEntry (upToTable step greedy line n (line.map fun d => [d])) c

/-- The ends of a number of rounds within bounds. -/
def iterations (step : Cursor → List Cursor) (min : Nat) (max : Option Nat) (greedy : Bool)
    (c : Cursor) : List Cursor :=
  match max with
  | some max => distinct ((rounds step min [c]).flatMap (upTo step greedy (max - min)))
  | none =>
    if min = 0 then star step greedy c
    else distinct ((rounds step (min - 1) [c]).flatMap (plus step greedy))

/-! ## Matching -/

/-- The places where a match from a place can end, the preferred one first. -/
def ends : Regex → Cursor → List Cursor
  | empty, c => [c]
  | set s, ⟨_, x :: rest⟩ => if s.contains x then [⟨some x, rest⟩] else []
  | set _, ⟨_, []⟩ => []
  | look a, c => if a.holds c then [c] else []
  | seq a b, c => distinct ((a.ends c).flatMap b.ends)
  | alt a b, c => distinct (a.ends c ++ b.ends c)
  | iterate min max greedy r, c => iterations r.ends min max greedy c

/-- The preferred end of a match that starts at a place. -/
def end? (r : Regex) (c : Cursor) : Option Cursor := (r.ends c).head?

/-- The first match from a place on: where it starts and where it ends. -/
def firstMatch? (r : Regex) (previous : Option Char) : List Char → Option (Cursor × Cursor)
  | [] => (r.end? ⟨previous, []⟩).map fun e => (⟨previous, []⟩, e)
  | x :: rest =>
    match r.end? ⟨previous, x :: rest⟩ with
    | some e => some (⟨previous, x :: rest⟩, e)
    | none => firstMatch? r (some x) rest

/-- The first match from a place on. Right after another match, `afterMatch`, an empty match at the
place itself does not count, and the search goes on one character later. -/
def nextMatch? (r : Regex) (afterMatch : Bool) (c : Cursor) : Option (Cursor × Cursor) :=
  match r.firstMatch? c.previous c.rest with
  | none => none
  | some (s, e) =>
    if afterMatch && s.rest.length == e.rest.length && e.rest.length == c.rest.length then
      c.next?.bind fun d => r.firstMatch? d.previous d.rest
    else some (s, e)

/-- The ends of the matches from a place on; `fuel` bounds their number. -/
def matchEndsFrom (r : Regex) : (fuel : Nat) → (afterMatch : Bool) → Cursor → List Cursor
  | 0, _, _ => []
  | fuel + 1, afterMatch, c =>
    match r.nextMatch? afterMatch c with
    | none => []
    | some (_, e) => e :: matchEndsFrom r fuel true e

/-- The ends of the matches in a line, from left to right. A line has at most one match more than it
has characters. -/
def matchEnds (r : Regex) (line : List Char) : List Cursor :=
  matchEndsFrom r (line.length + 1) false (Cursor.start line)

/-- Whether there is a match in a line. -/
def isMatch (r : Regex) (line : List Char) : Bool := (r.firstMatch? none line).isSome

end ReceiptRules.Regex

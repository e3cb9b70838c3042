import ReceiptRules.Json5.Lexer

/-!
# The tree of a JSON5 text

A node keeps strings, keys and numbers as they were written, and the entries of an object in their
order, also when a key is repeated. `Node.ofText?` reads a text; a text that is not JSON5 has no tree.
-/

namespace ReceiptRules.Json5

/-- A value as it was written. -/
inductive Node where
  | null
  | bool (b : Bool)
  | number (text : List Char)
  | string (components : List Component)
  | array (items : List Node)
  | object (entries : List (List Component × Node))

/-- The characters of a name that is written without escapes. -/
def plainName? : List Component → Option (List Char)
  | [] => some []
  | .literal c :: rest => (plainName? rest).map (c :: ·)
  | _ => none

/-- The value that a name stands for. Only five names are values, and only without escapes. -/
def Node.ofName? (components : List Component) : Option Node := do
  let name ← plainName? components
  if name = ['n', 'u', 'l', 'l'] then some .null
  else if name = ['t', 'r', 'u', 'e'] then some (.bool true)
  else if name = ['f', 'a', 'l', 's', 'e'] then some (.bool false)
  else if name = infinityWord || name = nanWord then some (.number name)
  else none

mutual

/-- Reads a value at the start of a list of tokens; `fuel` bounds the number of tokens read. -/
def readValue? : (fuel : Nat) → List Token → Option (Node × List Token)
  | 0, _ => none
  | _ + 1, .name components :: rest => (Node.ofName? components).map fun node => (node, rest)
  | _ + 1, .string components :: rest => some (.string components, rest)
  | _ + 1, .number text :: rest => some (.number text, rest)
  | _ + 1, .openBracket :: .closeBracket :: rest => some (.array [], rest)
  | fuel + 1, .openBracket :: rest => do
    let (items, rest) ← readItems? fuel rest
    return (.array items, rest)
  | _ + 1, .openBrace :: .closeBrace :: rest => some (.object [], rest)
  | fuel + 1, .openBrace :: rest => do
    let (entries, rest) ← readEntries? fuel rest
    return (.object entries, rest)
  | _, _ => none

/-- Reads the items of an array, at least one, and the closing bracket. The last item may be followed
by a comma. -/
def readItems? : (fuel : Nat) → List Token → Option (List Node × List Token)
  | 0, _ => none
  | fuel + 1, tokens => do
    let (item, rest) ← readValue? fuel tokens
    match rest with
    | .closeBracket :: rest => return ([item], rest)
    | .comma :: .closeBracket :: rest => return ([item], rest)
    | .comma :: rest =>
      let (items, rest) ← readItems? fuel rest
      return (item :: items, rest)
    | _ => none

/-- Reads the entries of an object, at least one, and the closing brace. The last entry may be followed
by a comma. -/
def readEntries? : (fuel : Nat) → List Token → Option (List (List Component × Node) × List Token)
  | 0, _ => none
  | fuel + 1, tokens => do
    let (key, rest) ← match tokens with
      | .name key :: .colon :: rest => some (key, rest)
      | .string key :: .colon :: rest => some (key, rest)
      | _ => none
    let (value, rest) ← readValue? fuel rest
    match rest with
    | .closeBrace :: rest => return ([(key, value)], rest)
    | .comma :: .closeBrace :: rest => return ([(key, value)], rest)
    | .comma :: rest =>
      let (entries, rest) ← readEntries? fuel rest
      return ((key, value) :: entries, rest)
    | _ => none

end

/-- The tree of a sequence of tokens. Each call reads a token or passes on to one that does, so twice
the number of tokens is fuel enough. -/
def Node.ofTokens? (tokens : List Token) : Option Node :=
  match readValue? (2 * tokens.length + 1) tokens with
  | some (node, []) => some node
  | _ => none

/-- The tree of a JSON5 text. -/
def Node.ofText? (text : String) : Option Node :=
  (tokenize? text.toList).bind Node.ofTokens?

end ReceiptRules.Json5

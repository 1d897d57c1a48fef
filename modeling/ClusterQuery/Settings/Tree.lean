import ClusterQuery.Settings.Token

/-!
# Settings trees

The structure of a settings file: scalars, lists, and maps whose entries stand as written.
Outside brackets a collection is bounded by its column: its items or entries all begin there, and
what belongs to one of them stands further right. A list may stand at the column of the key that
holds it.
-/

namespace ClusterQuery.Settings

/-- A node of a settings file. -/
inductive Tree where
  /-- A scalar, with whether it was written without quotes. A node that is left out is an empty
  plain scalar. -/
  | scalar (text : String) (plain : Bool)
  | list (items : List Tree)
  | map (entries : List (String × Tree))
deriving Repr, Inhabited

namespace Tree

/-- The node that stands where nothing is written. -/
def absent : Tree := .scalar "" true

/-- Whether the next token stands on a given line. -/
def sameLine (line : Nat) : List Token → Bool
  | [] => false
  | token :: _ => token.line == line

/-- Whether the next token opens a node that stands right of a column on a line of its own. -/
def indented (column : Nat) : List Token → Bool
  | [] => false
  | token :: _ => token.first && column < token.column

/-- Whether the next token is a dash at a column, on a line of its own. -/
def dashAt (column : Nat) : List Token → Bool
  | [] => false
  | token :: _ => token.sort == .dash && token.first && token.column == column

/-- Whether the next two tokens are a key and its colon, on one line. -/
def startsEntry : List Token → Bool
  | key :: colon :: _ =>
      match key.sort with
      | .scalar _ _ => colon.sort == .colon && colon.line == key.line
      | _ => false
  | _ => false

/-- Whether a map or list at a column goes on with the next token, is over, or is broken off. -/
def goesOn (column : Nat) : List Token → Option Bool
  | [] => some false
  | token :: _ =>
      if !token.first then none
      else if token.column = column then some true
      else if token.column < column then some false
      else none

mutual

/-- A node in brackets or a scalar inside brackets. -/
def flowNode : (steps : Nat) → List Token → Option (Tree × List Token)
  | 0, _ => none
  | steps + 1, token :: rest =>
      match token.sort with
      | .scalar text plain => some (.scalar text plain, rest)
      | .openList => flowItems steps [] rest
      | .openMap => flowEntries steps [] rest
      | _ => none
  | _ + 1, [] => none

/-- The items of a list in brackets; those read so far stand in reverse. -/
def flowItems : (steps : Nat) → List Tree → List Token → Option (Tree × List Token)
  | 0, _, _ => none
  | _ + 1, _, [] => none
  | steps + 1, items, token :: rest =>
      if token.sort = .closeList then some (.list items.reverse, rest)
      else do
        let (item, after) ← flowNode steps (token :: rest)
        match after with
        | next :: remaining =>
            match next.sort with
            | .comma => flowItems steps (item :: items) remaining
            | .closeList => some (.list (item :: items).reverse, remaining)
            | _ => none
        | [] => none

/-- The entries of a map in braces; those read so far stand in reverse. -/
def flowEntries : (steps : Nat) → List (String × Tree) → List Token → Option (Tree × List Token)
  | 0, _, _ => none
  | _ + 1, _, [] => none
  | steps + 1, entries, token :: rest =>
      match token.sort with
      | .closeMap => some (.map entries.reverse, rest)
      | .scalar key _ => do
          let (value, after) ← flowValue steps rest
          match after with
          | next :: remaining =>
              match next.sort with
              | .comma => flowEntries steps ((key, value) :: entries) remaining
              | .closeMap => some (.map ((key, value) :: entries).reverse, remaining)
              | _ => none
          | [] => none
      | _ => none

/-- The value after a key in braces: a colon and a node, either of which may be missing. -/
def flowValue : (steps : Nat) → List Token → Option (Tree × List Token)
  | 0, _ => none
  | steps + 1, token :: rest =>
      if token.sort = .colon then
        match rest with
        | next :: _ =>
            if next.sort = .comma ∨ next.sort = .closeMap then some (absent, rest)
            else flowNode steps rest
        | [] => none
      else some (absent, token :: rest)
  | _ + 1, [] => some (absent, [])

end

mutual

/-- A node that begins with the next token. -/
def blockNode : (steps : Nat) → List Token → Option (Tree × List Token)
  | 0, _ => none
  | _ + 1, [] => some (absent, [])
  | steps + 1, token :: rest =>
      if token.sort = .dash then blockItems steps token.column [] (token :: rest)
      else if startsEntry (token :: rest) then blockEntries steps token.column [] (token :: rest)
      else flowNode (rest.length + 1) (token :: rest)

/-- The items of a list at a column; those read so far stand in reverse. -/
def blockItems : (steps : Nat) → (column : Nat) → List Tree → List Token →
    Option (Tree × List Token)
  | 0, _, _, _ => none
  | _ + 1, _, items, [] => some (.list items.reverse, [])
  | steps + 1, column, items, token :: rest =>
      if token.sort = .dash ∧ token.column = column then do
        let (item, after) ←
          if sameLine token.line rest || indented column rest then blockNode steps rest
          else some (absent, rest)
        if ← goesOn column after then blockItems steps column (item :: items) after
        else return (.list (item :: items).reverse, after)
      else if items.isEmpty then none
      else some (.list items.reverse, token :: rest)

/-- The entries of a map at a column; those read so far stand in reverse. -/
def blockEntries : (steps : Nat) → (column : Nat) → List (String × Tree) → List Token →
    Option (Tree × List Token)
  | 0, _, _, _ => none
  | steps + 1, column, entries, token :: colon :: rest =>
      match token.sort, startsEntry [token, colon] with
      | .scalar key _, true => do
          let (value, after) ← blockValue steps column colon.line rest
          if ← goesOn column after then blockEntries steps column ((key, value) :: entries) after
          else return (.map ((key, value) :: entries).reverse, after)
      | _, _ => none
  | _ + 1, _, _, _ => none

/-- The value after a key at a column and its colon on a line: a scalar or flow node on that
line, or a node further right, or a list at the column of the key, on later lines. -/
def blockValue : (steps : Nat) → (column line : Nat) → List Token → Option (Tree × List Token)
  | 0, _, _, _ => none
  | steps + 1, column, line, tokens =>
      if sameLine line tokens then
        if startsEntry tokens then none else flowNode tokens.length tokens
      else if indented column tokens || dashAt column tokens then blockNode steps tokens
      else some (absent, tokens)

end

/-- The tree of a text. A document marker may stand on the first line. -/
def read? (text : String) : Option Tree := do
  let body :=
    match text.toList with
    | '-' :: '-' :: '-' :: '\n' :: rest => rest
    | other => other
  let tokens ← Token.scan body
  let (tree, rest) ← blockNode (2 * tokens.length + 1) tokens
  if rest.isEmpty then return tree else failure

end Tree

end ClusterQuery.Settings

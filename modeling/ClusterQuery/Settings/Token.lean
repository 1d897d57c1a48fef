import ClusterQuery.Text.Ascii

/-!
# Tokens of a settings file

A settings file is written in a part of YAML: block and flow collections, plain and quoted
scalars on one line, and comments. The text is cut into tokens that remember their line and
column, since layout carries meaning outside brackets.
-/

namespace ClusterQuery.Settings

/-- What a token is. -/
inductive TokenSort where
  | dash
  | colon
  | comma
  | openList
  | closeList
  | openMap
  | closeMap
  /-- A scalar, with whether it was written without quotes. -/
  | scalar (text : String) (plain : Bool)
deriving DecidableEq, Repr

/-- A token and its place. -/
structure Token where
  sort : TokenSort
  line : Nat
  column : Nat
  /-- Whether only blanks stand before it on its line. -/
  first : Bool
deriving DecidableEq, Repr

namespace Token

def isGap (c : Char) : Bool := c == ' ' || c == '\t'

def isBreak (c : Char) : Bool := c == '\n' || c == '\r'

/-- Whether a blank, a line break or the end of the text comes next. -/
def endsWord (text : List Char) : Bool :=
  match text with
  | [] => true
  | c :: _ => isGap c || isBreak c

def isFlowMark (c : Char) : Bool := c == ',' || c == '[' || c == ']' || c == '{' || c == '}'

/-- The characters with which no plain scalar begins. -/
def isReserved (c : Char) : Bool :=
  isFlowMark c || c == '#' || c == '&' || c == '*' || c == '!' || c == '|' || c == '>' ||
    c == '%' || c == '@' || c.toNat == 0x60

/-- Reads a plain scalar: up to a comment after a blank, a colon at the end of a word, the end of
the line, or a flow mark inside brackets. Gives the characters read, blanks at the end included. -/
def readPlain (inFlow afterGap : Bool) : List Char → List Char × List Char
  | [] => ([], [])
  | c :: rest =>
      if isBreak c || (c == '#' && afterGap) || (c == ':' && endsWord rest) ||
          (inFlow && isFlowMark c) then ([], c :: rest)
      else
        let (word, remaining) := readPlain inFlow (isGap c) rest
        (c :: word, remaining)

/-- The value of hexadecimal digits, `count` of them. -/
def readHex (count : Nat) (text : List Char) : Option (Char × List Char) := do
  let digits ← (text.take count).mapM Text.hexValue?
  let code := digits.foldl (fun value digit => value * 16 + digit) 0
  if digits.length = count ∧ (code < 0xD800 ∨ (0xDFFF < code ∧ code < 0x110000)) then
    return (Char.ofNat code, text.drop count)
  else failure

/-- The character of an escape in double quotes, and the text after it. -/
def readEscape : List Char → Option (Char × List Char)
  | '0' :: rest => some ('\x00', rest)
  | 'a' :: rest => some ('\x07', rest)
  | 'b' :: rest => some ('\x08', rest)
  | 't' :: rest | '\t' :: rest => some ('\t', rest)
  | 'n' :: rest => some ('\n', rest)
  | 'v' :: rest => some ('\x0b', rest)
  | 'f' :: rest => some ('\x0c', rest)
  | 'r' :: rest => some ('\r', rest)
  | 'e' :: rest => some ('\x1b', rest)
  | ' ' :: rest => some (' ', rest)
  | '"' :: rest => some ('"', rest)
  | '/' :: rest => some ('/', rest)
  | '\\' :: rest => some ('\\', rest)
  | 'N' :: rest => some ('\u0085', rest)
  | '_' :: rest => some ('\u00a0', rest)
  | 'L' :: rest => some ('\u2028', rest)
  | 'P' :: rest => some ('\u2029', rest)
  | 'x' :: rest => readHex 2 rest
  | 'u' :: rest => readHex 4 rest
  | 'U' :: rest => readHex 8 rest
  | _ => none

/-- Reads the inside of double quotes on one line, up to the closing one. -/
def readDouble : (steps : Nat) → List Char → Option (List Char × List Char)
  | 0, _ => none
  | _ + 1, [] => none
  | _ + 1, '"' :: rest => some ([], rest)
  | steps + 1, '\\' :: rest => do
      let (c, rest) ← readEscape rest
      let (inside, rest) ← readDouble steps rest
      return (c :: inside, rest)
  | steps + 1, c :: rest =>
      if isBreak c then none
      else do
        let (inside, rest) ← readDouble steps rest
        return (c :: inside, rest)

/-- Reads the inside of single quotes on one line; a doubled quote stands for one. -/
def readSingle : List Char → Option (List Char × List Char)
  | [] => none
  | '\'' :: '\'' :: rest => do
      let (inside, rest) ← readSingle rest
      return ('\'' :: inside, rest)
  | '\'' :: rest => some ([], rest)
  | c :: rest =>
      if isBreak c then none
      else do
        let (inside, rest) ← readSingle rest
        return (c :: inside, rest)

/-- Blanks at the end of a plain scalar do not belong to it. -/
def trimGaps (text : List Char) : List Char := (text.reverse.dropWhile isGap).reverse

/-- The reader between tokens: place, brackets still open, and what stands before. -/
structure Cursor where
  line : Nat
  column : Nat
  depth : Nat
  first : Bool
  afterGap : Bool

/-- The cursor at the start of a text. -/
def Cursor.start : Cursor := ⟨0, 0, 0, true, true⟩

/-- The cursor after a number of characters of a token. -/
def Cursor.past (cursor : Cursor) (count : Nat) : Cursor :=
  { cursor with column := cursor.column + count, first := false, afterGap := false }

/-- Reads one token that begins at the cursor, with the cursor and the text behind it. -/
def next? (cursor : Cursor) (text : List Char) : Option (Token × Cursor × List Char) :=
  let at_ (sort : TokenSort) (count : Nat) (rest : List Char) : Token × Cursor × List Char :=
    (⟨sort, cursor.line, cursor.column, cursor.first⟩, cursor.past count, rest)
  let mark (sort : TokenSort) (depth : Nat) (rest : List Char) : Token × Cursor × List Char :=
    (⟨sort, cursor.line, cursor.column, cursor.first⟩, { cursor.past 1 with depth }, rest)
  let inFlow := 0 < cursor.depth
  match text with
  | [] => none
  | '[' :: rest => some (mark .openList (cursor.depth + 1) rest)
  | '{' :: rest => some (mark .openMap (cursor.depth + 1) rest)
  | ']' :: rest => if inFlow then some (mark .closeList (cursor.depth - 1) rest) else none
  | '}' :: rest => if inFlow then some (mark .closeMap (cursor.depth - 1) rest) else none
  | ',' :: rest => if inFlow then some (at_ .comma 1 rest) else none
  | '"' :: rest => do
      let (inside, remaining) ← readDouble text.length rest
      return at_ (.scalar (String.ofList inside) false) (text.length - remaining.length) remaining
  | '\'' :: rest => do
      let (inside, remaining) ← readSingle rest
      return at_ (.scalar (String.ofList inside) false) (text.length - remaining.length) remaining
  | c :: rest =>
      if c = ':' ∧ (inFlow ∨ endsWord rest) then some (at_ .colon 1 rest)
      else if c = '-' ∧ endsWord rest then if inFlow then none else some (at_ .dash 1 rest)
      else if isReserved c || (c == '?' && (inFlow || endsWord rest)) then none
      else
        let (word, remaining) := readPlain inFlow false rest
        some (at_ (.scalar (String.ofList (trimGaps (c :: word))) true) (word.length + 1) remaining)

/-- Cuts a text into tokens, in at most `steps` steps. -/
def scanWithin : (steps : Nat) → Cursor → List Char → Option (List Token)
  | _, _, [] => some []
  | 0, _, _ => none
  | steps + 1, cursor, c :: rest =>
      if isBreak c then scanWithin steps ⟨cursor.line + 1, 0, cursor.depth, true, true⟩ rest
      else if isGap c then
        scanWithin steps { cursor with column := cursor.column + 1, afterGap := true } rest
      else if c = '#' then
        if cursor.afterGap then
          scanWithin steps cursor (rest.dropWhile fun other => !isBreak other)
        else none
      else do
        let (token, cursor, remaining) ← next? cursor (c :: rest)
        let tokens ← scanWithin steps cursor remaining
        return token :: tokens

def scan (text : List Char) : Option (List Token) := scanWithin text.length .start text

end Token

end ClusterQuery.Settings

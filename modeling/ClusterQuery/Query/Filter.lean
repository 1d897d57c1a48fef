import ClusterQuery.Query.FieldPath

/-!
# Filters

A filter compares one field with a literal, as in `log.level >= WARN`. The leftmost operator
splits the source; the literal may be quoted, and is taken into the field's domain when the
filter is compiled. `text` is the canonical form, which compiles to the same filter.
-/

namespace ClusterQuery

/-- A comparison of a field with a literal. -/
inductive Comparison where
  | equal
  | notEqual
  | less
  | atMost
  | greater
  | atLeast
deriving DecidableEq, Repr

namespace Comparison

def symbol : Comparison → String
  | .equal => "="
  | .notEqual => "!="
  | .less => "<"
  | .atMost => "<="
  | .greater => ">"
  | .atLeast => ">="

/-- Whether a comparison holds, given how its left side compares with its right side. -/
def holds (comparison : Comparison) (ordering : Ordering) : Bool :=
  match comparison with
  | .equal => ordering == .eq
  | .notEqual => ordering != .eq
  | .less => ordering == .lt
  | .atMost => ordering != .gt
  | .greater => ordering == .gt
  | .atLeast => ordering != .lt

/-- The operator at the start of a text, and the rest. Two-character spellings go first. -/
def read? : List Char → Option (Comparison × List Char)
  | '=' :: '=' :: rest => some (.equal, rest)
  | '!' :: '=' :: rest => some (.notEqual, rest)
  | '<' :: '=' :: rest => some (.atMost, rest)
  | '>' :: '=' :: rest => some (.atLeast, rest)
  | '=' :: rest => some (.equal, rest)
  | '<' :: rest => some (.less, rest)
  | '>' :: rest => some (.greater, rest)
  | _ => none

end Comparison

/-- A comparison of one field with a literal of its domain. -/
structure Filter where
  path : FieldPath
  comparison : Comparison
  literal : Value
deriving DecidableEq, Repr

namespace Filter

/-- Splits a text at its leftmost operator. -/
def splitOperator? : List Char → Option (List Char × Comparison × List Char)
  | [] => none
  | c :: rest =>
      match Comparison.read? (c :: rest) with
      | some (comparison, after) => some ([], comparison, after)
      | none =>
          (splitOperator? rest).map fun (before, comparison, after) =>
            (c :: before, comparison, after)

/-- The inside of a text that begins and ends with a mark, the two being different places. -/
def between? (mark : Char) : List Char → Option (List Char)
  | [] => none
  | first :: rest =>
      if first = mark ∧ rest.getLast? = some mark then some rest.dropLast else none

/-- Resolves escaped quotes and backslashes; any other backslash stands for itself. -/
def unescape : List Char → List Char
  | '\\' :: '"' :: rest => '"' :: unescape rest
  | '\\' :: '\\' :: rest => '\\' :: unescape rest
  | c :: rest => c :: unescape rest
  | [] => []

/-- Escapes quotes and backslashes. -/
def escape : List Char → List Char
  | [] => []
  | c :: rest => if c = '"' ∨ c = '\\' then '\\' :: c :: escape rest else c :: escape rest

/-- Takes one layer of quotes off a literal: single quotes hold their inside as it is, double
quotes hold escapes. -/
def unquote (literal : List Char) : List Char :=
  match between? '\'' literal with
  | some inside => inside
  | none =>
      match between? '"' literal with
      | some inside => unescape inside
      | none => literal

/-- Compiles a filter for records of a kind. -/
def compile (source : String) (kind : RecordKind) : Except QueryError Filter :=
  let invalid (fault : FilterFault) : Except QueryError Filter :=
    .error (.invalidFilter source fault)
  match splitOperator? source.toList with
  | none => invalid .missingOperator
  | some (before, comparison, after) =>
      let path := Text.trimBlank before
      let literal := unquote (Text.trimBlank after)
      if path = [] then invalid .missingPath
      else if literal = [] then invalid .missingValue
      else
        match FieldPath.compile (String.ofList path) kind with
        | .error error => .error error
        | .ok compiled =>
            match compiled.type.ofText? (String.ofList literal) with
            | some value => .ok ⟨compiled, comparison, value⟩
            | none =>
                invalid (.invalidLiteral (String.ofList literal) compiled.type (String.ofList path))

/-- Whether a record passes the filter. -/
def accepts (filter : Filter) (record : Record) : Bool :=
  filter.comparison.holds ((filter.path.extract record).compare filter.literal)

/-- The text of a literal, with strings in double quotes. -/
def literalChars : Value → List Char
  | .text value => '"' :: (escape value.toList ++ ['"'])
  | value => value.display.toList

/-- The canonical text of a filter. -/
def text (filter : Filter) : String :=
  filter.path.text ++ " " ++ filter.comparison.symbol ++ " " ++
    String.ofList (literalChars filter.literal)

end Filter

end ClusterQuery

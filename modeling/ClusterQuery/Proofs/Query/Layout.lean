import ClusterQuery.Proofs.Query.CanonicalText

/-!
# Layout of filters

A filter may be laid out in many ways: blanks stand around its parts, operators have more than one
spelling, and quotes make a literal of any string. What is written comes apart where it was put
together, unless the operator runs into the literal, so all layouts of one path, one operator and
one literal compile to the same filter or fail for the same reason.
-/

namespace ClusterQuery

namespace Text

/-- A string of blanks. -/
structure Blanks where
  text : String
  blank : text.toList.all isBlank = true

theorem Blanks.isBlank_of_mem (blanks : Blanks) {c : Char} (member : c ∈ blanks.text.toList) :
    isBlank c = true :=
  List.all_eq_true.mp blanks.blank c member

/-- Trimming does not see blanks around a text. -/
theorem trimBlank_between (before after : Blanks) (text : String) :
    trimBlank (before.text ++ text ++ after.text).toList = trimBlank text.toList := by
  rw [String.toList_append, String.toList_append,
    trimBlank_append_right _ fun _ => after.isBlank_of_mem,
    trimBlank_append_left fun _ => before.isBlank_of_mem]

end Text

/-! ## Operators as they are spelled -/

namespace Comparison

/-- The spellings of the operators. -/
def spellings : List (String × Comparison) :=
  [("==", .equal), ("!=", .notEqual), ("<=", .atMost), (">=", .atLeast),
    ("=", .equal), ("<", .less), (">", .greater)]

theorem symbol_mem_spellings (comparison : Comparison) :
    (comparison.symbol, comparison) ∈ spellings := by
  cases comparison <;> decide

/-- Whether an operator ends where its spelling does: an equals sign behind a single character
would belong to the operator. -/
def Ends (spelling : String) (rest : List Char) : Prop :=
  spelling.length = 2 ∨ rest.head? ≠ some '='

variable {spelling : String} {comparison : Comparison} {rest : List Char}

/-- An operator that is spelled out and ends there is read. -/
theorem read?_of_spelled (spelled : (spelling, comparison) ∈ spellings)
    (ends : Ends spelling rest) : read? (spelling.toList ++ rest) = some (comparison, rest) := by
  have alone (single : spelling.length ≠ 2) (more : List Char) : rest ≠ '=' :: more := by
    rintro rfl
    exact ends.elim single fun apart => apart rfl
  simp only [spellings, List.mem_cons, List.not_mem_nil, or_false, Prod.mk.injEq] at spelled
  rcases spelled with ⟨rfl, rfl⟩ | ⟨rfl, rfl⟩ | ⟨rfl, rfl⟩ | ⟨rfl, rfl⟩ | ⟨rfl, rfl⟩ | ⟨rfl, rfl⟩ |
    ⟨rfl, rfl⟩
  · rfl
  · rfl
  · rfl
  · rfl
  · change read? ('=' :: rest) = some (.equal, rest)
    rw [read?]
    exact alone (by decide)
  · change read? ('<' :: rest) = some (.less, rest)
    rw [read?]
    exact alone (by decide)
  · change read? ('>' :: rest) = some (.greater, rest)
    rw [read?]
    exact alone (by decide)

end Comparison

/-- No operator begins in a path that compiles, nor in the blanks around it. -/
theorem FieldPath.read?_of_mem {path : String} {kind : RecordKind} {compiled : FieldPath}
    (compiles : compile path kind = .ok compiled) :
    ∀ c ∈ path.toList, ∀ rest, Comparison.read? (c :: rest) = none := by
  obtain ⟨field, declared, -, -, isText, trimmed⟩ := of_compile_eq_ok compiles
  obtain ⟨lead, trail, leadBlank, trailBlank, whole⟩ := Text.eq_append_trimBlank_append path.toList
  intro c member rest
  rw [whole, ← trimmed, isText, List.mem_append, List.mem_append] at member
  rcases member with (inLead | inPath) | inTrail
  · exact Comparison.read?_of_isBlank (leadBlank c inLead) rest
  · exact Comparison.read?_of_isPathChar (isPathChar_of_mem_pathOf declared c inPath) rest
  · exact Comparison.read?_of_isBlank (trailBlank c inTrail) rest

namespace Filter

/-! ## Sources and their parts -/

/-- Where an operator begins, a text is split. -/
theorem splitOperator?_of_read? {text after : List Char} {comparison : Comparison}
    (found : Comparison.read? text = some (comparison, after)) :
    splitOperator? text = some ([], comparison, after) := by
  cases text with
  | nil => cases found
  | cons c rest => rw [splitOperator?, found]

/-- The value that a literal has for a path, or why it has none. -/
def readLiteral (path : FieldPath) (literal : List Char) : Except FilterFault Value :=
  let inside := unquote literal
  if inside = [] then .error .missingValue
  else
    match path.type.ofText? (String.ofList inside) with
    | some value => .ok value
    | none => .error (.invalidLiteral (String.ofList inside) path.type path.text)

/-- Once a source is split behind a path that compiles, the literal decides what it compiles to. -/
theorem compile_of_split {source : String} {kind : RecordKind} {path : FieldPath}
    {comparison : Comparison} {before after : List Char}
    (split : splitOperator? source.toList = some (before, comparison, after))
    (compiles : FieldPath.compile (String.ofList before) kind = .ok path) :
    compile source kind =
      match readLiteral path (Text.trimBlank after) with
      | .ok value => .ok ⟨path, comparison, value⟩
      | .error fault => .error (.invalidFilter source fault) := by
  obtain ⟨field, -, -, -, isText, trimmed⟩ := FieldPath.of_compile_eq_ok compiles
  rw [String.toList_ofList] at trimmed
  have somePath : Text.trimBlank before ≠ [] := by
    rw [← trimmed, isText, Schema.toList_pathOf]
    simp
  have recompiled : FieldPath.compile (String.ofList (Text.trimBlank before)) kind = .ok path := by
    apply FieldPath.compile_eq_ok_of_trimBlank_eq compiles
    rw [String.toList_ofList, String.toList_ofList]
    exact Text.trimBlank_eq_self (Text.isTrimmed_trimBlank before)
  by_cases noLiteral : unquote (Text.trimBlank after) = []
  · simp only [compile, split, if_neg somePath, readLiteral, if_pos noLiteral]
  · rw [compile_eq_of_split split rfl rfl somePath noLiteral recompiled]
    simp only [readLiteral, if_neg noLiteral, ← trimmed, String.ofList_toList]
    cases path.type.ofText? (String.ofList (unquote (Text.trimBlank after))) <;> rfl

/-! ## Spacing -/

/-- The blanks before a path, on both sides of an operator, and behind a literal. -/
structure Spacing where
  beforePath : Text.Blanks
  beforeOperator : Text.Blanks
  afterOperator : Text.Blanks
  afterLiteral : Text.Blanks

namespace Spacing

/-- One space on each side of the operator, and none elsewhere. -/
def plain : Spacing := ⟨⟨"", rfl⟩, ⟨" ", rfl⟩, ⟨" ", rfl⟩, ⟨"", rfl⟩⟩

variable (spacing : Spacing) (path spelling literal : String)

/-- What a filter has before its operator. -/
def front : String := spacing.beforePath.text ++ path ++ spacing.beforeOperator.text

/-- What a filter has behind its operator. -/
def back : String := spacing.afterOperator.text ++ literal ++ spacing.afterLiteral.text

/-- A filter written out. -/
def write : String := spacing.front path ++ spelling ++ spacing.back literal

/-- Whether the operator does not run into the literal. -/
def Separates : Prop :=
  spacing.afterOperator.text ≠ "" ∨ spelling.length = 2 ∨ literal.toList.head? ≠ some '='

theorem separates_plain : plain.Separates spelling literal := .inl (by decide)

theorem write_plain :
    plain.write path spelling literal = path ++ " " ++ spelling ++ " " ++ literal := by
  simp [plain, write, front, back, String.append_assoc]

variable {spacing path spelling literal} {kind : RecordKind} {compiled : FieldPath}
variable {comparison : Comparison}

/-- An operator that does not run into the literal ends where its spelling does. -/
theorem Separates.ends (separates : spacing.Separates spelling literal) :
    Comparison.Ends spelling (spacing.back literal).toList := by
  by_cases double : spelling.length = 2
  · exact .inl double
  right
  intro isEquals
  rw [back, String.toList_append, String.toList_append, List.head?_append, List.head?_append,
    Option.or_eq_some_iff, Option.or_eq_some_iff] at isEquals
  have notBlank : Text.isBlank '=' ≠ true := by decide
  rcases isEquals with (inGap | ⟨noGap, inLiteral⟩) | ⟨-, inTrail⟩
  · exact notBlank (spacing.afterOperator.isBlank_of_mem (List.mem_of_head? inGap))
  · rcases separates with gap | isDouble | apart
    · exact gap (String.toList_eq_nil_iff.mp (List.head?_eq_none_iff.mp noGap))
    · exact double isDouble
    · exact apart inLiteral
  · exact notBlank (spacing.afterLiteral.isBlank_of_mem (List.mem_of_head? inTrail))

/-- No operator begins before the one that is written. -/
theorem read?_of_mem_front (compiles : FieldPath.compile path kind = .ok compiled) :
    ∀ c ∈ (spacing.front path).toList, ∀ rest, Comparison.read? (c :: rest) = none := by
  intro c member rest
  rw [front, String.toList_append, String.toList_append, List.mem_append, List.mem_append] at member
  rcases member with (inLead | inPath) | inGap
  · exact Comparison.read?_of_isBlank (spacing.beforePath.isBlank_of_mem inLead) rest
  · exact FieldPath.read?_of_mem compiles c inPath rest
  · exact Comparison.read?_of_isBlank (spacing.beforeOperator.isBlank_of_mem inGap) rest

/-- A filter that is written out is split at its operator, whatever the literal holds. -/
theorem splitOperator?_write (compiles : FieldPath.compile path kind = .ok compiled)
    (spelled : (spelling, comparison) ∈ Comparison.spellings)
    (separates : spacing.Separates spelling literal) :
    splitOperator? (spacing.write path spelling literal).toList =
      some ((spacing.front path).toList, comparison, (spacing.back literal).toList) := by
  have operator := splitOperator?_of_read? (Comparison.read?_of_spelled spelled separates.ends)
  rw [write, String.toList_append, String.toList_append, List.append_assoc,
    splitOperator?_append (read?_of_mem_front compiles), operator]
  simp

/-- What a filter compiles to, however it is written out. -/
theorem compile_write (compiles : FieldPath.compile path kind = .ok compiled)
    (spelled : (spelling, comparison) ∈ Comparison.spellings)
    (separates : spacing.Separates spelling literal) :
    compile (spacing.write path spelling literal) kind =
      match readLiteral compiled (Text.trimBlank literal.toList) with
      | .ok value => .ok ⟨compiled, comparison, value⟩
      | .error fault => .error (.invalidFilter (spacing.write path spelling literal) fault) := by
  have isPath : FieldPath.compile (String.ofList (spacing.front path).toList) kind =
      .ok compiled := by
    apply FieldPath.compile_eq_ok_of_trimBlank_eq compiles
    rw [String.ofList_toList]
    exact Text.trimBlank_between _ _ path
  rw [compile_of_split (splitOperator?_write compiles spelled separates) isPath, back,
    Text.trimBlank_between]

end Spacing

/-- The layout of a filter does not count. However it is spaced and its operator is spelled, it is
split at that operator, and it compiles to the filter that the plain layout with the operator's own
symbol compiles to, or fails for the same reason, unless the operator runs into the literal. -/
theorem compile_ignores_layout {spacing : Spacing} {path spelling literal : String}
    {kind : RecordKind} {compiled : FieldPath} {comparison : Comparison}
    (compiles : FieldPath.compile path kind = .ok compiled)
    (spelled : (spelling, comparison) ∈ Comparison.spellings)
    (separates : spacing.Separates spelling literal) :
    let source := spacing.write path spelling literal
    let plainSource := path ++ " " ++ comparison.symbol ++ " " ++ literal
    splitOperator? source.toList =
        some ((spacing.front path).toList, comparison, (spacing.back literal).toList) ∧
      ((∃ value, compile source kind = .ok ⟨compiled, comparison, value⟩ ∧
          compile plainSource kind = .ok ⟨compiled, comparison, value⟩) ∨
        ∃ fault, compile source kind = .error (.invalidFilter source fault) ∧
          compile plainSource kind = .error (.invalidFilter plainSource fault)) := by
  intro source plainSource
  have written := Spacing.compile_write compiles spelled separates
  have plainly := Spacing.compile_write compiles comparison.symbol_mem_spellings
    (Spacing.separates_plain comparison.symbol literal)
  rw [Spacing.write_plain] at plainly
  refine ⟨Spacing.splitOperator?_write compiles spelled separates, ?_⟩
  cases outcome : readLiteral compiled (Text.trimBlank literal.toList) with
  | ok value =>
      rw [outcome] at written plainly
      exact .inl ⟨value, written, plainly⟩
  | error fault =>
      rw [outcome] at written plainly
      exact .inr ⟨fault, written, plainly⟩

/-- An equals sign behind `<` belongs to the literal once a blank is put between them. -/
theorem compile_ignores_layout_before_equals_sign :
    let path : FieldPath := ⟨.log, "log.message", [4], .string⟩
    let source := "\u2003log.message\t<\u3000=\"a >= b\"\n"
    splitOperator? source.toList =
        some ("\u2003log.message\t".toList, .less, "\u3000=\"a >= b\"\n".toList) ∧
      ∃ value, compile source .log = .ok ⟨path, .less, value⟩ ∧
        compile "log.message < =\"a >= b\"" .log = .ok ⟨path, .less, value⟩ := by
  intro path source
  let spacing : Spacing := ⟨⟨"\u2003", rfl⟩, ⟨"\t", rfl⟩, ⟨"\u3000", rfl⟩, ⟨"\n", rfl⟩⟩
  have compiles : FieldPath.compile "log.message" .log = .ok path := by rfl
  have spelled : ("<", Comparison.less) ∈ Comparison.spellings := by decide
  have separates : spacing.Separates "<" "=\"a >= b\"" := .inl (by decide)
  obtain ⟨split, same⟩ := compile_ignores_layout compiles spelled separates
  refine ⟨split, ?_⟩
  rcases same with accepted | ⟨fault, -, refused⟩
  · exact accepted
  · have isFilter : compile "log.message < =\"a >= b\"" .log =
        .ok ⟨path, .less, .text "=\"a >= b\""⟩ := by rfl
    cases isFilter.symm.trans refused

/-! ## Quoted literals -/

/-- A string in double quotes, with quotes and backslashes escaped. -/
def quote (text : String) : String :=
  String.ofList ('"' :: (escape text.toList ++ ['"']))

theorem quote_injective : Function.Injective quote := by
  intro left right equal
  have escaped : escape left.toList = escape right.toList := by
    simpa [quote] using String.ofList_injective equal
  rw [← String.toList_inj, ← unescape_escape left.toList, escaped, unescape_escape]

/-- A quoted string is read as the string, unless it is empty. -/
theorem readLiteral_quote {path : FieldPath} (isString : path.type = .string) {text : String}
    (some : text ≠ "") :
    readLiteral path (Text.trimBlank (quote text).toList) = .ok (.text text) := by
  have admits : FieldType.string.Admits (.text text) := .string text
  have trimmed : Text.trimBlank (quote text).toList = '"' :: (escape text.toList ++ ['"']) := by
    rw [quote, String.toList_ofList]
    exact Text.trimBlank_eq_self (unquote_literalChars rfl admits).1
  have notEmpty : text.toList ≠ [] := by simpa using some
  rw [trimmed, readLiteral, unquote_quoted, isString]
  simp [notEmpty, FieldType.ofText?]

/-- Every string can be the literal of a filter on a string: in quotes, and with quotes and
backslashes escaped, it is read as it is, whatever it holds. Different strings give different
texts. -/
theorem compile_quoted {path spelling text : String} {kind : RecordKind} {compiled : FieldPath}
    {comparison : Comparison} (compiles : FieldPath.compile path kind = .ok compiled)
    (isString : compiled.type = .string)
    (spelled : (spelling, comparison) ∈ Comparison.spellings) (some : text ≠ "") :
    compile (path ++ " " ++ spelling ++ " " ++ quote text) kind =
        .ok ⟨compiled, comparison, .text text⟩ ∧
      ∀ other, path ++ " " ++ spelling ++ " " ++ quote other =
        path ++ " " ++ spelling ++ " " ++ quote text → other = text := by
  constructor
  · have written := Spacing.compile_write compiles spelled
      (Spacing.separates_plain spelling (quote text))
    rw [readLiteral_quote isString some] at written
    rwa [Spacing.write_plain] at written
  · intro other equal
    rw [← String.toList_inj] at equal
    have quoted : (quote other).toList = (quote text).toList := by simpa using equal
    exact quote_injective (String.toList_inj.mp quoted)

/-- A string of a blank, an operator, a quote and a backslash survives. -/
theorem compile_quoted_of_marks :
    let path : FieldPath := ⟨.log, "log.message", [4], .string⟩
    let literal := " >= \"\\"
    FieldPath.compile "log.message" .log = .ok path ∧
      ("==", Comparison.equal) ∈ Comparison.spellings ∧
      quote literal = "\" >= \\\"\\\\\"" ∧
      compile "log.message == \" >= \\\"\\\\\"" .log = .ok ⟨path, .equal, .text literal⟩ := by
  intro path literal
  have compiles : FieldPath.compile "log.message" .log = .ok path := by rfl
  have spelled : ("==", Comparison.equal) ∈ Comparison.spellings := by decide
  have some : literal ≠ "" := by decide
  have quoted : quote literal = "\" >= \\\"\\\\\"" := by decide
  have written := (compile_quoted compiles rfl spelled some).1
  rw [quoted] at written
  exact ⟨compiles, spelled, quoted, written⟩

end Filter

end ClusterQuery

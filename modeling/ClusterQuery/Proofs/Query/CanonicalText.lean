import ClusterQuery.Proofs.Query.FieldPath
import ClusterQuery.Proofs.Record.Domain
import ClusterQuery.Query.Filter

/-!
# Canonical text of filters

The canonical text of a filter compiles to the filter again, so a peer that gets the text applies
the same filter. Operators are found behind the path, which holds none; what is behind the operator
is the literal, and quotes come off it as they were put on. The one literal that is lost is an
instant whose year has no plain four digits: it is printed with a sign, and refused.
-/

namespace ClusterQuery

namespace Comparison

/-- Operators begin with one of four characters. -/
theorem read?_of_ne {c : Char} (notEqual : c ≠ '=') (notBang : c ≠ '!') (notLess : c ≠ '<')
    (notGreater : c ≠ '>') (rest : List Char) : read? (c :: rest) = none := by
  unfold read?
  split <;> simp_all

/-- No operator begins with a character of a path. -/
theorem read?_of_isPathChar {c : Char} (pathChar : FieldPath.isPathChar c = true)
    (rest : List Char) : read? (c :: rest) = none := by
  simp only [FieldPath.isPathChar, Bool.and_eq_true, bne_iff_ne, ne_eq] at pathChar
  obtain ⟨⟨⟨⟨_, notEqual⟩, notBang⟩, notLess⟩, notGreater⟩ := pathChar
  exact read?_of_ne notEqual notBang notLess notGreater rest

/-- No operator begins with a blank. -/
theorem read?_of_isBlank {c : Char} (blank : Text.isBlank c = true) (rest : List Char) :
    read? (c :: rest) = none := by
  have notSign (sign : Char) (notBlank : Text.isBlank sign = false) : c ≠ sign := by
    rintro rfl
    rw [notBlank] at blank
    cases blank
  exact read?_of_ne (notSign '=' rfl) (notSign '!' rfl) (notSign '<' rfl) (notSign '>' rfl) rest

end Comparison

namespace Filter

/-! ## Operators -/

/-- The leftmost operator lies behind a text in which none begins. -/
theorem splitOperator?_append {before : List Char}
    (none : ∀ c ∈ before, ∀ rest, Comparison.read? (c :: rest) = none) (after : List Char) :
    splitOperator? (before ++ after) =
      (splitOperator? after).map fun (path, comparison, literal) =>
        (before ++ path, comparison, literal) := by
  induction before with
  | nil => simp
  | cons c before ih =>
      rw [List.forall_mem_cons] at none
      rw [List.cons_append, splitOperator?, none.1, ih none.2, Option.map_map]
      rfl

theorem splitOperator?_symbol (comparison : Comparison) (rest : List Char) :
    splitOperator? (comparison.symbol.toList ++ ' ' :: rest) =
      some ([], comparison, ' ' :: rest) := by
  cases comparison <;> rfl

/-! ## Quotes -/

theorem between?_of_ne {mark first : Char} (different : first ≠ mark) (rest : List Char) :
    between? mark (first :: rest) = none := by
  rw [between?, if_neg fun both => different both.1]

theorem between?_append (mark : Char) (inside : List Char) :
    between? mark (mark :: (inside ++ [mark])) = some inside := by
  rw [between?, if_pos ⟨rfl, List.getLast?_concat⟩, List.dropLast_concat]

theorem unescape_cons {c : Char} (plain : c ≠ '\\') (rest : List Char) :
    unescape (c :: rest) = c :: unescape rest := by
  rw [unescape] <;> simp_all

/-- Escapes are resolved as they were made. -/
theorem unescape_escape (text : List Char) : unescape (escape text) = text := by
  induction text with
  | nil => rfl
  | cons c rest ih =>
      rw [escape]
      split
      next special =>
        rcases special with rfl | rfl
        · rw [unescape, ih]
        · rw [unescape, ih]
      next plain => rw [unescape_cons (fun backslash => plain (.inr backslash)), ih]

/-- A quoted text is read back, whatever it holds. -/
theorem unquote_quoted (text : List Char) : unquote ('"' :: (escape text ++ ['"'])) = text := by
  rw [unquote, between?_of_ne (by decide), between?_append]
  exact unescape_escape text

theorem unquote_of_isWord {text : List Char} (word : Text.isWord text = true) :
    unquote text = text := by
  cases text with
  | nil => rfl
  | cons first rest =>
      simp only [Text.isWord, Text.isWordChar, List.head?_cons, Option.any_some, Bool.and_eq_true,
        bne_iff_ne, ne_eq] at word
      obtain ⟨⟨⟨_, notDouble⟩, notSingle⟩, _⟩ := word
      rw [unquote, between?_of_ne notSingle, between?_of_ne notDouble]

/-! ## Literals -/

/-- What stands for a value in a filter begins and ends without a blank, and is read as the text of
the value once quotes are off. -/
theorem unquote_literalChars {type : FieldType} (legible : type.isLegible = true) {value : Value}
    (admits : type.Admits value) :
    Text.isTrimmed (literalChars value) = true ∧
      unquote (literalChars value) = value.display.toList := by
  by_cases isText : ∃ text, value = .text text
  · obtain ⟨text, rfl⟩ := isText
    refine ⟨?_, unquote_quoted text.toList⟩
    rw [Text.isTrimmed_iff, literalChars, ← List.cons_append, List.getLast?_concat]
    simp only [List.cons_append, List.head?_cons, Option.mem_some_iff]
    exact ⟨fun c isQuote => isQuote ▸ rfl, fun c isQuote => isQuote ▸ rfl⟩
  · have word := FieldType.isWord_display legible admits fun text equal => isText ⟨text, equal⟩
    have plain : literalChars value = value.display.toList := by
      cases value with
      | text text => exact absurd ⟨text, rfl⟩ isText
      | _ => rfl
    rw [plain]
    exact ⟨Text.isTrimmed_of_isWord word, unquote_of_isWord word⟩

/-- The texts of the values of declared fields can be read back. -/
theorem isLegible_of_mem_fields {kind : RecordKind} {field : Field}
    (declared : field ∈ kind.schema.fields) : field.type.isLegible = true := by
  have all : (kind.schema.fields.all fun field => field.type.isLegible) = true := by
    cases kind <;> decide
  exact List.all_eq_true.mp all field declared

/-! ## Compiling -/

/-- A filter that compiles was split at its comparison. -/
theorem split_of_compile_eq_ok {source : String} {kind : RecordKind} {filter : Filter}
    (success : compile source kind = .ok filter) :
    ∃ before after, splitOperator? source.toList = some (before, filter.comparison, after) ∧
      Text.trimBlank before ≠ [] ∧ unquote (Text.trimBlank after) ≠ [] ∧
      FieldPath.compile (String.ofList (Text.trimBlank before)) kind = .ok filter.path ∧
      filter.path.type.ofText? (String.ofList (unquote (Text.trimBlank after))) =
        some filter.literal := by
  simp only [compile] at success
  split at success
  next => cases success
  next before comparison after split =>
    split at success
    next => cases success
    next somePath =>
      split at success
      next => cases success
      next someLiteral =>
        split at success
        next => cases success
        next compiled =>
          split at success
          next value read =>
            cases success
            exact ⟨before, after, split, somePath, someLiteral, compiled, read⟩
          next => cases success

/-- A filter that compiles was split into a path and a literal that are both there. -/
theorem of_compile_eq_ok {source : String} {kind : RecordKind} {filter : Filter}
    (success : compile source kind = .ok filter) :
    ∃ path literal : List Char, path ≠ [] ∧ literal ≠ [] ∧
      FieldPath.compile (String.ofList path) kind = .ok filter.path ∧
      filter.path.type.ofText? (String.ofList literal) = some filter.literal := by
  obtain ⟨before, after, _, parts⟩ := split_of_compile_eq_ok success
  exact ⟨Text.trimBlank before, unquote (Text.trimBlank after), parts⟩

/-- What a source compiles to, once it is split. -/
theorem compile_eq_of_split {source : String} {kind : RecordKind} {path : FieldPath}
    {comparison : Comparison} {before after trimmed literal : List Char}
    (split : splitOperator? source.toList = some (before, comparison, after))
    (isPath : Text.trimBlank before = trimmed)
    (isLiteral : unquote (Text.trimBlank after) = literal)
    (somePath : trimmed ≠ []) (someLiteral : literal ≠ [])
    (compiled : FieldPath.compile (String.ofList trimmed) kind = .ok path) :
    compile source kind =
      match path.type.ofText? (String.ofList literal) with
      | some value => .ok ⟨path, comparison, value⟩
      | none => .error (.invalidFilter source
          (.invalidLiteral (String.ofList literal) path.type (String.ofList trimmed))) := by
  cases read : path.type.ofText? (String.ofList literal) <;>
    simp only [compile, split, isPath, isLiteral, if_neg somePath, if_neg someLiteral, compiled,
      read]

/-- The canonical text is split where it was put together. -/
theorem splitOperator?_text {filter : Filter}
    (plain : ∀ c ∈ filter.path.text.toList, FieldPath.isPathChar c = true) :
    splitOperator? filter.text.toList =
      some (filter.path.text.toList ++ [' '], filter.comparison,
        ' ' :: literalChars filter.literal) := by
  have none : ∀ c ∈ filter.path.text.toList ++ [' '], ∀ rest,
      Comparison.read? (c :: rest) = none := by
    intro c member rest
    rcases List.mem_append.mp member with inPath | isBlank
    · exact Comparison.read?_of_isPathChar (plain c inPath) rest
    · rw [List.mem_singleton.mp isBlank]
      rfl
  have chars : filter.text.toList = (filter.path.text.toList ++ [' ']) ++
      (filter.comparison.symbol.toList ++ ' ' :: literalChars filter.literal) := by
    simp [text]
  rw [chars, splitOperator?_append none, splitOperator?_symbol]
  simp

/-- Whoever compiles the canonical text of a filter gets the filter. -/
theorem eq_of_compile_text {source : String} {kind : RecordKind} {filter other : Filter}
    (success : compile source kind = .ok filter)
    (accepted : compile filter.text kind = .ok other) : other = filter := by
  obtain ⟨_, _, _, _, compiled, read⟩ := of_compile_eq_ok success
  obtain ⟨field, declared, _, isType, isText, trimmed⟩ := FieldPath.of_compile_eq_ok compiled
  have legible : filter.path.type.isLegible = true := isType ▸ isLegible_of_mem_fields declared
  have admits := FieldType.admits_of_ofText? legible read
  have blank : ∀ c ∈ [' '], Text.isBlank c = true := List.forall_mem_singleton.mpr rfl
  obtain ⟨before, after, split, _, _, recompiled, reread⟩ := split_of_compile_eq_ok accepted
  rw [splitOperator?_text (isText ▸ FieldPath.isPathChar_of_mem_pathOf declared)] at split
  simp only [Option.some.injEq, Prod.mk.injEq] at split
  obtain ⟨rfl, sameComparison, rfl⟩ := split
  have samePath : other.path = filter.path := by
    have pathTrimmed : Text.trimBlank filter.path.text.toList = filter.path.text.toList :=
      Text.trimBlank_eq_self (trimmed ▸ Text.isTrimmed_trimBlank _)
    have isPath : Text.trimBlank (filter.path.text.toList ++ [' ']) = filter.path.text.toList := by
      rw [Text.trimBlank_append_right _ blank, pathTrimmed]
    rw [isPath, FieldPath.compile_eq_ok_of_trimBlank_eq compiled] at recompiled
    · exact (Except.ok.inj recompiled).symm
    · rw [String.toList_ofList, pathTrimmed, trimmed]
  have sameLiteral : other.literal = filter.literal := by
    obtain ⟨literalTrimmed, unquoted⟩ := unquote_literalChars legible admits
    have dropped := Text.trimBlank_append_left blank (literalChars filter.literal)
    rw [List.singleton_append, Text.trimBlank_eq_self literalTrimmed] at dropped
    rw [dropped, unquoted, String.ofList_toList, samePath,
      FieldType.ofText?_display legible admits] at reread
    split at reread
    next => exact (Option.some.inj reread).symm
    next => cases reread
  obtain ⟨path, comparison, literal⟩ := other
  cases samePath
  cases sameComparison
  cases sameLiteral
  rfl

/-- The canonical text of a filter compiles to the filter, unless its literal is an instant whose
year is written with a sign: then the literal is refused. -/
theorem compile_text {source : String} {kind : RecordKind} {filter : Filter}
    (success : compile source kind = .ok filter) :
    compile filter.text kind =
      if filter.literal.readsBack then .ok filter
      else .error (.invalidFilter filter.text
        (.invalidLiteral filter.literal.display filter.path.type filter.path.text)) := by
  obtain ⟨path, literal, _, someLiteral, compiled, read⟩ := of_compile_eq_ok success
  obtain ⟨field, declared, _, isType, isText, trimmed⟩ := FieldPath.of_compile_eq_ok compiled
  have blank : ∀ c ∈ [' '], Text.isBlank c = true := List.forall_mem_singleton.mpr rfl
  have legible : filter.path.type.isLegible = true := isType ▸ isLegible_of_mem_fields declared
  have admits := FieldType.admits_of_ofText? legible read
  have split := splitOperator?_text (isText ▸ FieldPath.isPathChar_of_mem_pathOf declared)
  -- The path comes back.
  have pathTrimmed : Text.trimBlank filter.path.text.toList = filter.path.text.toList :=
    Text.trimBlank_eq_self (trimmed ▸ Text.isTrimmed_trimBlank _)
  have isPath : Text.trimBlank (filter.path.text.toList ++ [' ']) = filter.path.text.toList := by
    rw [Text.trimBlank_append_right _ blank, pathTrimmed]
  have somePath : filter.path.text.toList ≠ [] := by
    rw [isText, Schema.toList_pathOf]
    exact List.append_ne_nil_of_right_ne_nil _ (List.cons_ne_nil _ _)
  have recompiled : FieldPath.compile (String.ofList filter.path.text.toList) kind =
      .ok filter.path := by
    refine FieldPath.compile_eq_ok_of_trimBlank_eq compiled ?_
    rw [String.toList_ofList, pathTrimmed, trimmed]
  -- So does the literal.
  obtain ⟨literalTrimmed, unquoted⟩ := unquote_literalChars legible admits
  have isLiteral : unquote (Text.trimBlank (' ' :: literalChars filter.literal)) =
      filter.literal.display.toList := by
    have dropped := Text.trimBlank_append_left blank (literalChars filter.literal)
    rw [List.singleton_append, Text.trimBlank_eq_self literalTrimmed] at dropped
    rw [dropped, unquoted]
  have someDisplay := FieldType.display_ne_nil legible read (by simpa using someLiteral)
  rw [compile_eq_of_split split isPath isLiteral somePath someDisplay recompiled,
    String.ofList_toList, String.ofList_toList, FieldType.ofText?_display legible admits]
  by_cases readsBack : filter.literal.readsBack = true
  · rw [if_pos readsBack, if_pos readsBack]
  · rw [if_neg readsBack, if_neg readsBack]

/-- A string with quotes of both sorts and a backslash at its end survives. -/
theorem compile_text_of_quotes :
    let filter : Filter :=
      ⟨⟨.log, "log.message", [4], .string⟩, .notEqual, .text "it's \"here\" \\"⟩
    compile "log.message != 'it's \"here\" \\'" .log = .ok filter ∧
      compile filter.text .log = .ok filter := by
  intro filter
  have compiled : compile "log.message != 'it's \"here\" \\'" .log = .ok filter := by rfl
  exact ⟨compiled, compile_text compiled⟩

/-- The first millisecond of the year 10000 is accepted, but its canonical text is not. -/
theorem compile_text_refused :
    let filter : Filter :=
      ⟨⟨.log, "log.ts", [0], .timestamp⟩, .greater, .timestamp ⟨253402300800, 0⟩⟩
    compile "log.ts > 253402300800000" .log = .ok filter ∧
      filter.text = "log.ts > +10000-01-01T00:00:00+00:00" ∧
      compile filter.text .log ≠ .ok filter := by
  intro filter
  have compiled : compile "log.ts > 253402300800000" .log = .ok filter := by rfl
  refine ⟨compiled, by decide +kernel, fun accepted => ?_⟩
  have refused : (compile filter.text .log).toOption = none := by decide +kernel
  rw [accepted] at refused
  cases refused

end Filter

end ClusterQuery

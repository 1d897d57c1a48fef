import ClusterQuery.Proofs.Query.FieldPath

/-!
# Declared paths

A path compiles if and only if, blanks around it apart, it is the root of the schema, a dot and the
name of a declared field whose values can be compared. The path of a declared collection is refused
for its type, and every other text is unknown. This needs two things of a schema: no name holds a
dot, so that a path comes apart where it was put together, and no two fields share a name.
-/

namespace ClusterQuery

/-! ## Texts in two pieces -/

namespace Text

variable {mark : Char}

/-- A text without marks is in one piece. -/
theorem pieces_of_not_mem {text : List Char} (unmarked : mark ∉ text) :
    pieces mark text = [text] := by
  induction text with
  | nil => rfl
  | cons c rest ih =>
      rw [List.mem_cons, not_or] at unmarked
      rw [pieces, if_neg (Ne.symm unmarked.1), ih unmarked.2]

/-- The first piece ends at the first mark. -/
theorem pieces_append {before : List Char} (unmarked : mark ∉ before) (after : List Char) :
    pieces mark (before ++ mark :: after) = before :: pieces mark after := by
  induction before with
  | nil => exact if_pos rfl
  | cons c rest ih =>
      rw [List.mem_cons, not_or] at unmarked
      rw [List.cons_append, pieces, if_neg (Ne.symm unmarked.1), ih unmarked.2]

end Text

/-! ## Fields and their paths -/

/-- A schema whose fields can be told apart by their paths. -/
structure Schema.IsReadable (schema : Schema) : Prop where
  root_undotted : '.' ∉ schema.root.toList
  names_undotted : ∀ field ∈ schema.fields, '.' ∉ field.name.toList
  names_distinct : (schema.fields.map Field.name).Nodup

/-- Among fields with different names, each is found by its own. -/
theorem Field.find?_of_getElem? {fields : List Field} {start position : Nat} {field : Field}
    (distinct : (fields.map Field.name).Nodup) (standing : fields[position]? = some field) :
    find? field.name start fields = some (start + position, field) := by
  induction fields generalizing start position with
  | nil => cases standing
  | cons first rest ih =>
      obtain ⟨new, distinctRest⟩ := List.nodup_cons.mp distinct
      cases position with
      | zero =>
          cases standing
          exact if_pos rfl
      | succ position =>
          have later : rest[position]? = some field := standing
          have different : first.name ≠ field.name := by
            intro same
            exact new (same ▸ List.mem_map_of_mem (List.mem_of_getElem? later))
          rw [find?, if_neg different, ih distinctRest later, Nat.add_right_comm, Nat.add_assoc]

theorem Schema.IsReadable.field?_of_getElem? {schema : Schema} (readable : schema.IsReadable)
    {position : Nat} {field : Field} (standing : schema.fields[position]? = some field) :
    schema.field? field.name = some (position, field) := by
  rw [Schema.field?, Field.find?_of_getElem? readable.names_distinct standing, Nat.zero_add]

theorem RecordKind.isReadable_schema (kind : RecordKind) : kind.schema.IsReadable := by
  cases kind <;> constructor <;> decide

namespace FieldPath

variable {path : String} {kind : RecordKind} {compiled : FieldPath}

/-- A text resolves if and only if it is the path of a declared field: its two pieces are the root
and the name of the field. -/
theorem resolve?_eq_some_iff {text : List Char} {steps : List Nat} {type : FieldType} :
    resolve? kind.schema text = some (steps, type) ↔
      ∃ position field, kind.schema.fields[position]? = some field ∧ steps = [position] ∧
        type = field.type ∧ text = (kind.schema.pathOf field).toList := by
  refine ⟨getElem?_of_resolve?, ?_⟩
  rintro ⟨position, field, standing, rfl, rfl, rfl⟩
  have readable := kind.isReadable_schema
  have undotted := readable.names_undotted field (List.mem_of_getElem? standing)
  have split : Text.pieces '.' (kind.schema.pathOf field).toList =
      [kind.schema.root.toList, field.name.toList] := by
    rw [Schema.toList_pathOf, Text.pieces_append readable.root_undotted,
      Text.pieces_of_not_mem undotted]
  refine resolve?_eq_some_iff_pieces.mpr ⟨_, position, field, split, ?_, rfl, rfl⟩
  rw [String.ofList_toList, readable.field?_of_getElem? standing]

/-- The path of a declared field compiles, if the values of the field can be compared. -/
theorem compile_of_declared {position : Nat} {field : Field}
    (standing : kind.schema.fields[position]? = some field)
    (named : Text.trim path = kind.schema.pathOf field) :
    compile path kind =
      if field.type.isOrderable then .ok ⟨kind, Text.trim path, [position], field.type⟩
      else .error (.unorderable path field.type) := by
  have trimmed : Text.trimBlank path.toList = (kind.schema.pathOf field).toList := by
    rw [← named, Text.toList_trim]
  rw [compile, resolve?_eq_some_iff.mpr ⟨position, field, standing, rfl, rfl, trimmed⟩]

/-- A text that is no path of a declared field is unknown. -/
theorem compile_of_undeclared
    (undeclared : ∀ field ∈ kind.schema.fields, Text.trim path ≠ kind.schema.pathOf field) :
    compile path kind = .error (.unknownField kind path) := by
  rw [compile]
  split
  next => rfl
  next steps type found =>
    obtain ⟨position, field, standing, -, -, trimmed⟩ := getElem?_of_resolve? found
    refine absurd ?_ (undeclared field (List.mem_of_getElem? standing))
    rw [← String.toList_inj, Text.toList_trim, trimmed]

/-- A text is the path of a declared field with or without an order, or of none; what it compiles to
depends on nothing else. -/
theorem compile_cases (path : String) (kind : RecordKind) :
    (∃ (position : Nat) (field : Field), kind.schema.fields[position]? = some field ∧
        field.type.isOrderable = true ∧ Text.trim path = kind.schema.pathOf field ∧
        compile path kind = .ok ⟨kind, Text.trim path, [position], field.type⟩) ∨
      (∃ field ∈ kind.schema.fields, field.type.isOrderable = false ∧
        Text.trim path = kind.schema.pathOf field ∧
        compile path kind = .error (.unorderable path field.type)) ∨
      ((∀ field ∈ kind.schema.fields, Text.trim path ≠ kind.schema.pathOf field) ∧
        compile path kind = .error (.unknownField kind path)) := by
  by_cases declared : ∃ field ∈ kind.schema.fields, Text.trim path = kind.schema.pathOf field
  · obtain ⟨field, member, named⟩ := declared
    obtain ⟨position, standing⟩ := List.mem_iff_getElem?.mp member
    have compiled := compile_of_declared standing named
    cases orderable : field.type.isOrderable with
    | true =>
        rw [orderable] at compiled
        exact .inl ⟨position, field, standing, orderable, named, compiled⟩
    | false =>
        rw [orderable] at compiled
        exact .inr (.inl ⟨field, member, orderable, named, compiled⟩)
  · have undeclared : ∀ field ∈ kind.schema.fields, Text.trim path ≠ kind.schema.pathOf field :=
      fun field member named => declared ⟨field, member, named⟩
    exact .inr (.inr ⟨undeclared, compile_of_undeclared undeclared⟩)

/-- What fails to compile is the path of a declared field without an order, or of no declared field;
the error says which. -/
theorem of_compile_eq_error {error : QueryError} (failure : compile path kind = .error error) :
    (∃ field ∈ kind.schema.fields, field.type.isOrderable = false ∧
        Text.trim path = kind.schema.pathOf field ∧ error = .unorderable path field.type) ∨
      ((∀ field ∈ kind.schema.fields, Text.trim path ≠ kind.schema.pathOf field) ∧
        error = .unknownField kind path) := by
  rcases compile_cases path kind with
    ⟨_, _, _, _, _, success⟩ | ⟨field, declared, unordered, named, fails⟩ | ⟨undeclared, fails⟩
  · cases success.symm.trans failure
  · cases fails.symm.trans failure
    exact .inl ⟨field, declared, unordered, named, rfl⟩
  · cases fails.symm.trans failure
    exact .inr ⟨undeclared, rfl⟩

/-! ## What declared paths look like -/

/-- Every declared path has one dot and no blanks, and does not begin with the root of another
kind. -/
theorem shape_of_pathOf {field : Field} (declared : field ∈ kind.schema.fields) :
    (kind.schema.pathOf field).toList.count '.' = 1 ∧
      (∀ c ∈ (kind.schema.pathOf field).toList, Text.isBlank c = false) ∧
      ∀ other : RecordKind, other ≠ kind →
        ¬other.schema.root.toList <+: (kind.schema.pathOf field).toList := by
  have counted : ∀ field ∈ kind.schema.fields,
      (kind.schema.pathOf field).toList.count '.' = 1 := by
    cases kind <;> decide
  have blankless : ∀ c ∈ (kind.schema.pathOf field).toList, Text.isBlank c = false := by
    intro c member
    have plain := isPathChar_of_mem_pathOf declared c member
    simp only [isPathChar, Bool.and_eq_true, Bool.not_eq_true'] at plain
    exact plain.1.1.1.1
  have rooted : ∀ field ∈ kind.schema.fields, ∀ other ∈ RecordKind.all, other ≠ kind →
      ¬other.schema.root.toList <+: (kind.schema.pathOf field).toList := by
    cases kind <;> decide
  refine ⟨counted field declared, blankless, fun other different => ?_⟩
  exact rooted field declared other (by cases other <;> decide) different

/-- The declared fields without an order are lists and maps. -/
theorem list_or_map_of_unorderable {field : Field} (declared : field ∈ kind.schema.fields)
    (unorderable : field.type.isOrderable = false) : field.type = .list ∨ field.type = .map := by
  have all : ∀ field ∈ kind.schema.fields, field.type.isOrderable = false →
      field.type = .list ∨ field.type = .map := by
    cases kind <;> decide
  exact all field declared unorderable

/-! ## What compiling comes to -/

/-- What compiling a path for a kind comes to. -/
structure CompilesExactly (path : String) (kind : RecordKind) : Prop where
  /-- The compiled path is the trimmed one, with the place and the type of its field. -/
  accepted : ∀ compiled, compile path kind = .ok compiled ↔
    ∃ (position : Nat) (field : Field), kind.schema.fields[position]? = some field ∧
      field.type.isOrderable = true ∧ Text.trim path = kind.schema.pathOf field ∧
      compiled = ⟨kind, Text.trim path, [position], field.type⟩
  /-- A compiled path compiles again to itself. -/
  stable : ∀ compiled, compile path kind = .ok compiled →
    compile compiled.text kind = .ok compiled
  unorderable : ∀ shown type, compile path kind = .error (.unorderable shown type) ↔
    shown = path ∧ (type = .list ∨ type = .map) ∧
      ∃ field ∈ kind.schema.fields, field.type = type ∧ Text.trim path = kind.schema.pathOf field
  unknown : compile path kind = .error (.unknownField kind path) ↔
    ∀ field ∈ kind.schema.fields, Text.trim path ≠ kind.schema.pathOf field
  /-- There is no other error. -/
  refused : ∀ error, compile path kind = .error error →
    error = .unknownField kind path ∨ ∃ type, error = .unorderable path type
  /-- Too few or too many segments, a blank within, or the root of another kind. -/
  misshapen : (Text.trim path).toList.count '.' ≠ 1 ∨
      (∃ c ∈ (Text.trim path).toList, Text.isBlank c = true) ∨
      (∃ other : RecordKind, other ≠ kind ∧
        other.schema.root.toList <+: (Text.trim path).toList) →
    compile path kind = .error (.unknownField kind path)

/-- A path compiles if and only if it is, once trimmed, the root of the schema, a dot and the name
of a declared field that can be compared; it is refused for its type if and only if it names a
declared list or map; and it is unknown if and only if it names no declared field. -/
theorem compile_is_exact (path : String) (kind : RecordKind) : CompilesExactly path kind := by
  constructor
  case accepted =>
    intro compiled
    constructor
    · intro success
      rcases compile_cases path kind with
        ⟨position, field, standing, orderable, named, equal⟩ | ⟨_, _, _, _, fails⟩ | ⟨_, fails⟩
      · cases equal.symm.trans success
        exact ⟨position, field, standing, orderable, named, rfl⟩
      · cases fails.symm.trans success
      · cases fails.symm.trans success
    · rintro ⟨position, field, standing, orderable, named, rfl⟩
      rw [compile_of_declared standing named, if_pos orderable]
  case stable =>
    intro compiled success
    obtain ⟨_, _, _, _, _, _, _, _, trimmed⟩ := exists_field_of_compile success
    apply compile_eq_ok_of_trimBlank_eq success
    rw [trimmed, Text.trimBlank_eq_self (Text.isTrimmed_trimBlank _)]
  case unorderable =>
    intro shown type
    constructor
    · intro failure
      rcases of_compile_eq_error failure with ⟨field, declared, unordered, named, equal⟩ | ⟨_, equal⟩
      · cases equal
        exact ⟨rfl, list_or_map_of_unorderable declared unordered, field, declared, rfl, named⟩
      · cases equal
    · rintro ⟨rfl, collection, field, declared, rfl, named⟩
      obtain ⟨position, standing⟩ := List.mem_iff_getElem?.mp declared
      rw [compile_of_declared standing named]
      rcases collection with isList | isMap
      · rw [isList]
        rfl
      · rw [isMap]
        rfl
  case unknown =>
    refine ⟨fun failure => ?_, compile_of_undeclared⟩
    rcases of_compile_eq_error failure with ⟨_, _, _, _, equal⟩ | ⟨undeclared, _⟩
    · cases equal
    · exact undeclared
  case refused =>
    intro error failure
    rcases of_compile_eq_error failure with ⟨field, _, _, _, rfl⟩ | ⟨_, rfl⟩
    · exact .inr ⟨field.type, rfl⟩
    · exact .inl rfl
  case misshapen =>
    intro misshapen
    apply compile_of_undeclared
    intro field declared named
    obtain ⟨oneDot, blankless, foreign⟩ := shape_of_pathOf declared
    rw [named] at misshapen
    rcases misshapen with dots | ⟨c, member, blank⟩ | ⟨other, different, begins⟩
    · exact dots oneDot
    · rw [blankless c member] at blank
      cases blank
    · exact foreign other different begins

/-- Below a map nothing is declared, so what is wrong with the path is not the type of the map. -/
example : compile "log.mdc.zone" .log = .error (.unknownField .log "log.mdc.zone") := by rfl

end FieldPath

end ClusterQuery

import ClusterQuery.Proofs.Text.Trimming
import ClusterQuery.Query.FieldPath

/-!
# What paths compile

Compiling walks down a schema segment by segment, and a walk leads from field to field as long as
each is an object. The schemas declare no objects, so every walk ends at the first field: a path
that compiles is, once trimmed, the root of the schema, a dot and the name of a declared field. No
declared path holds a blank or a character that begins an operator.
-/

namespace ClusterQuery

/-- A text is its pieces with the marks between them. -/
theorem Text.eq_of_pieces_eq_cons {mark : Char} {text first : List Char}
    {others : List (List Char)} (equal : pieces mark text = first :: others) :
    text = first ++ others.flatMap fun piece => mark :: piece := by
  induction text generalizing first others with
  | nil =>
      cases equal
      rfl
  | cons c rest ih =>
      rw [pieces] at equal
      split at equal
      next isMark =>
        cases equal
        obtain ⟨second, more, split⟩ := List.exists_cons_of_ne_nil (pieces_ne_nil mark rest)
        rw [split, List.nil_append, List.flatMap_cons, isMark, List.cons_append]
        exact congrArg (mark :: ·) (ih split)
      next =>
        split at equal
        next none => exact absurd none (pieces_ne_nil mark rest)
        next piece more split =>
          cases equal
          exact congrArg (c :: ·) (ih split)

/-- A field that is found by its name stands at the position given with it. -/
theorem Field.getElem?_of_find? {name : String} {start position : Nat} {fields : List Field}
    {field : Field} (found : find? name start fields = some (position, field)) :
    start ≤ position ∧ fields[position - start]? = some field ∧ field.name = name := by
  induction fields generalizing start with
  | nil => cases found
  | cons first rest ih =>
      rw [find?] at found
      split at found
      next named =>
        cases found
        simp [named]
      next =>
        obtain ⟨after, standing, named⟩ := ih found
        obtain ⟨offset, rfl⟩ := Nat.exists_eq_add_of_le after
        have further : start + 1 + offset - start = offset + 1 := by omega
        rw [Nat.add_sub_cancel_left] at standing
        rw [further, List.getElem?_cons_succ]
        exact ⟨Nat.le_of_succ_le after, standing, named⟩

namespace Schema

theorem toList_pathOf (schema : Schema) (field : Field) :
    (schema.pathOf field).toList = schema.root.toList ++ '.' :: field.name.toList := by
  simp [pathOf]

end Schema

/-- The fields below a type are those that an object declares. -/
theorem FieldType.inner?_eq_some_iff {type : FieldType} {inner : List Field} :
    type.inner? = some inner ↔ type = .objectOf inner := by
  cases type <;> simp [inner?]

/-- The schemas declare no objects. -/
theorem RecordKind.inner?_eq_none (kind : RecordKind) :
    ∀ field ∈ kind.schema.fields, field.type.inner? = none := by
  cases kind <;> decide

namespace FieldPath

/-! ## Walks -/

/-- Segments lead down declared fields, with the position of each and the type of the last. -/
inductive Leads : List Field → List (List Char) → List Nat → FieldType → Prop where
  /-- The last segment names a field. -/
  | last {fields : List Field} {segment : List Char} {position : Nat} {field : Field}
      (found : Field.find? (String.ofList segment) 0 fields = some (position, field)) :
      Leads fields [segment] [position] field.type
  /-- A segment names an object, and the others lead on from there. -/
  | inside {fields inner : List Field} {segment : List Char} {segments : List (List Char)}
      {position : Nat} {steps : List Nat} {field : Field} {type : FieldType}
      (found : Field.find? (String.ofList segment) 0 fields = some (position, field))
      (isObject : field.type = .objectOf inner) (rest : Leads inner segments steps type) :
      Leads fields (segment :: segments) (position :: steps) type

namespace Walk

variable {fields : List Field} {before steps : List Nat} {terminal? : Option FieldType}
variable {segment : List Char} {type : FieldType}

theorem next?_of_find?_eq_none
    (missing : Field.find? (String.ofList segment) 0 fields = none) :
    next? ⟨some fields, before, terminal?⟩ segment = none := by
  simp [next?, missing]

theorem next?_of_find?_eq_some {position : Nat} {field : Field}
    (found : Field.find? (String.ofList segment) 0 fields = some (position, field)) :
    next? ⟨some fields, before, terminal?⟩ segment =
      some ⟨field.type.inner?, before ++ [position], some field.type⟩ := by
  simp [next?, found]

/-- A walk goes as far as the segments lead, and nowhere else. -/
theorem along?_eq_some_iff (segments : List (List Char)) :
    along? ⟨some fields, before, terminal?⟩ (segment :: segments) = some (steps, type) ↔
      ∃ further, steps = before ++ further ∧ Leads fields (segment :: segments) further type := by
  induction segments generalizing fields before terminal? segment with
  | nil =>
      rw [along?]
      constructor
      · intro arrives
        cases found : Field.find? (String.ofList segment) 0 fields with
        | none =>
            rw [next?_of_find?_eq_none found] at arrives
            cases arrives
        | some place =>
            rw [next?_of_find?_eq_some found] at arrives
            cases arrives
            exact ⟨[place.1], rfl, .last found⟩
      · rintro ⟨further, rfl, leads⟩
        cases leads with
        | last found =>
            rw [next?_of_find?_eq_some found]
            rfl
        | inside _ _ rest => cases rest
  | cons second segments ih =>
      rw [along?]
      constructor
      · intro arrives
        cases found : Field.find? (String.ofList segment) 0 fields with
        | none =>
            rw [next?_of_find?_eq_none found] at arrives
            cases arrives
        | some place =>
            obtain ⟨position, field⟩ := place
            rw [next?_of_find?_eq_some found] at arrives
            cases isInner : field.type.inner? with
            | none =>
                -- There is nothing below a field that is no object.
                rw [isInner] at arrives
                cases arrives
            | some inner =>
                rw [isInner] at arrives
                obtain ⟨further, rfl, leads⟩ := ih.mp arrives
                exact ⟨position :: further, List.append_assoc before [position] further,
                  .inside found (FieldType.inner?_eq_some_iff.mp isInner) leads⟩
      · rintro ⟨further, rfl, leads⟩
        cases leads with
        | @inside _ inner _ _ position steps field _ found isObject rest =>
            rw [next?_of_find?_eq_some found, isObject]
            exact ih.mpr ⟨steps, (List.append_assoc before [position] steps).symm, rest⟩

/-- From the root, too, where no segments lead nowhere. -/
theorem along?_start_eq_some_iff {segments : List (List Char)} :
    (start fields).along? segments = some (steps, type) ↔ Leads fields segments steps type := by
  cases segments with
  | nil =>
      constructor
      · exact nofun
      · intro leads
        cases leads
  | cons segment segments =>
      rw [start, along?_eq_some_iff]
      simp only [List.nil_append, exists_eq_left']

end Walk

/-- A text resolves if and only if its first piece is the root and the others lead down from it. -/
theorem resolve?_eq_some_iff_leads {schema : Schema} {text : List Char} {steps : List Nat}
    {type : FieldType} :
    resolve? schema text = some (steps, type) ↔
      ∃ segments, Text.pieces '.' text = schema.root.toList :: segments ∧
        Leads schema.fields segments steps type := by
  rw [resolve?]
  cases split : Text.pieces '.' text with
  | nil => exact absurd split (Text.pieces_ne_nil '.' text)
  | cons root segments =>
      simp only [List.cons.injEq]
      split
      next isRoot =>
        rw [Walk.along?_start_eq_some_iff]
        simp only [isRoot, true_and, exists_eq_left']
      next notRoot => simp [notRoot]

/-! ## Paths of the schemas -/

/-- Where no object is declared, segments lead somewhere if and only if there is one of them, and it
names a field. -/
theorem leads_iff_of_flat {fields : List Field} {segments : List (List Char)} {steps : List Nat}
    {type : FieldType} (flat : ∀ field ∈ fields, field.type.inner? = none) :
    Leads fields segments steps type ↔
      ∃ segment position field, segments = [segment] ∧
        Field.find? (String.ofList segment) 0 fields = some (position, field) ∧
        steps = [position] ∧ type = field.type := by
  constructor
  · intro leads
    cases leads with
    | @last _ segment position field found =>
        exact ⟨segment, position, field, rfl, found, rfl, rfl⟩
    | inside found isObject rest =>
        have none := flat _ (List.mem_of_getElem? (Field.getElem?_of_find? found).2.1)
        rw [FieldType.inner?_eq_some_iff.mpr isObject] at none
        cases none
  · rintro ⟨segment, position, field, rfl, found, rfl, rfl⟩
    exact .last found

/-- Walks down the schemas end at the first field, so a text resolves if and only if it has two
pieces: the root and the name of a declared field. -/
theorem resolve?_eq_some_iff_pieces {kind : RecordKind} {text : List Char} {steps : List Nat}
    {type : FieldType} :
    resolve? kind.schema text = some (steps, type) ↔
      ∃ name position field, Text.pieces '.' text = [kind.schema.root.toList, name] ∧
        kind.schema.field? (String.ofList name) = some (position, field) ∧
        steps = [position] ∧ type = field.type := by
  simp only [resolve?_eq_some_iff_leads, leads_iff_of_flat kind.inner?_eq_none]
  constructor
  · rintro ⟨_, split, name, position, field, rfl, rest⟩
    exact ⟨name, position, field, split, rest⟩
  · rintro ⟨name, position, field, split, rest⟩
    exact ⟨[name], split, name, position, field, rfl, rest⟩

/-- A path that resolves is that of the field at the one position that it leads to. -/
theorem getElem?_of_resolve? {kind : RecordKind} {text : List Char} {steps : List Nat}
    {type : FieldType} (found : resolve? kind.schema text = some (steps, type)) :
    ∃ position field, kind.schema.fields[position]? = some field ∧ steps = [position] ∧
      type = field.type ∧ text = (kind.schema.pathOf field).toList := by
  obtain ⟨name, position, field, split, found, isStep, isType⟩ :=
    resolve?_eq_some_iff_pieces.mp found
  obtain ⟨-, standing, named⟩ := Field.getElem?_of_find? found
  refine ⟨position, field, standing, isStep, isType, ?_⟩
  rw [Text.eq_of_pieces_eq_cons split, Schema.toList_pathOf, List.flatMap_singleton, named,
    String.toList_ofList]

/-- A compiled path is the path of the field at its position, trimmed, with the type of the field,
whose values can be compared. -/
theorem exists_field_of_compile {path : String} {kind : RecordKind} {compiled : FieldPath}
    (success : compile path kind = .ok compiled) :
    ∃ position field, kind.schema.fields[position]? = some field ∧
      field.type.isOrderable = true ∧ compiled.kind = kind ∧ compiled.steps = [position] ∧
      compiled.type = field.type ∧ compiled.text = kind.schema.pathOf field ∧
      compiled.text.toList = Text.trimBlank path.toList := by
  unfold compile at success
  split at success
  next => cases success
  next steps type found =>
    split at success
    next orderable =>
      cases success
      obtain ⟨position, field, standing, isStep, rfl, trimmed⟩ := getElem?_of_resolve? found
      refine ⟨position, field, standing, orderable, rfl, isStep, rfl, ?_, Text.toList_trim path⟩
      rw [← String.toList_inj, Text.toList_trim, trimmed]
    next => cases success

/-- A compiled path is the path of a declared field, trimmed, with the type of the field. -/
theorem of_compile_eq_ok {path : String} {kind : RecordKind} {compiled : FieldPath}
    (success : compile path kind = .ok compiled) :
    ∃ field ∈ kind.schema.fields, compiled.kind = kind ∧ compiled.type = field.type ∧
      compiled.text = kind.schema.pathOf field ∧
      compiled.text.toList = Text.trimBlank path.toList := by
  obtain ⟨position, field, standing, -, isKind, -, parts⟩ := exists_field_of_compile success
  exact ⟨field, List.mem_of_getElem? standing, isKind, parts⟩

/-- What a path compiles to depends on the trimmed path only. -/
theorem compile_eq_ok_of_trimBlank_eq {path other : String} {kind : RecordKind}
    {compiled : FieldPath} (success : compile path kind = .ok compiled)
    (same : Text.trimBlank other.toList = Text.trimBlank path.toList) :
    compile other kind = .ok compiled := by
  have sameText : Text.trim other = Text.trim path := congrArg String.ofList same
  unfold compile at success ⊢
  rw [same, sameText]
  split at success
  next => cases success
  next steps type found =>
    split at success
    next orderable => exact (if_pos orderable).trans success
    next => cases success

/-- Whether a character may stand in the path of a field. -/
def isPathChar (c : Char) : Bool :=
  !Text.isBlank c && c != '=' && c != '!' && c != '<' && c != '>'

/-- The paths of declared fields hold neither blanks nor operators. -/
theorem isPathChar_of_mem_pathOf {kind : RecordKind} {field : Field}
    (declared : field ∈ kind.schema.fields) :
    ∀ c ∈ (kind.schema.pathOf field).toList, isPathChar c = true := by
  have all : (kind.schema.fields.all fun field =>
      (kind.schema.pathOf field).toList.all isPathChar) = true := by
    cases kind <;> decide
  exact List.all_eq_true.mp (List.all_eq_true.mp all field declared)

end FieldPath

end ClusterQuery

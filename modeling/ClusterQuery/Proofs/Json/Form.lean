import ClusterQuery.Json.Form
import ClusterQuery.Proofs.Json.StringText
import Mathlib.Data.List.Forall2

/-!
# What a structure stands for

What reading a structure comes to, said without the reader: which entry of an object is the value of
a known key, which item of an array is the field in its place, and when a field is a text, a number
or a list. Entries with other keys are immaterial, whatever their values.
-/

namespace ClusterQuery

namespace Form

variable {α : Type}

/-- Steps that may have no result have results together if each has one. -/
theorem mapM_eq_some_iff {β : Type} {step : α → Option β} {items : List α} {results : List β} :
    items.mapM step = some results ↔
      List.Forall₂ (fun item result => step item = some result) items results := by
  induction items generalizing results with
  | nil => simp [eq_comm]
  | cons item items ih =>
      rw [List.mapM_cons]
      simp only [List.forall₂_cons_left_iff, ← ih, Option.bind_eq_bind, Option.bind_eq_some_iff,
        Option.pure_def, Option.some.injEq]
      constructor
      · rintro ⟨result, first, others, rest, rfl⟩
        exact ⟨result, others, first, rest, rfl⟩
      · rintro ⟨result, others, first, rest, rfl⟩
        exact ⟨result, first, others, rest, rfl⟩

/-! ## Known keys -/

/-- What entries hold for a known key, which may stand among them once. -/
inductive Holds (entries : List (String × α)) (key : String) : Option α → Prop where
  | nothing (absent : ∀ entry ∈ entries, entry.1 ≠ key) : Holds entries key none
  | value {before after : List (String × α)} {value : α}
      (split : entries = before ++ (key, value) :: after)
      (notBefore : ∀ entry ∈ before, entry.1 ≠ key)
      (notAfter : ∀ entry ∈ after, entry.1 ≠ key) : Holds entries key (some value)

section Known

variable {entries : List (String × α)} {key : String}

theorem filter_key_eq_nil_iff :
    (entries.filter fun entry => entry.1 == key) = [] ↔ ∀ entry ∈ entries, entry.1 ≠ key := by
  simp [List.filter_eq_nil_iff]

theorem known?_eq_some_iff {found : Option α} :
    known? entries key = some found ↔ Holds entries key found := by
  constructor
  · intro known
    unfold known? at known
    split at known
    next none =>
      cases known
      exact .nothing (filter_key_eq_nil_iff.mp none)
    next name value once =>
      cases known
      obtain ⟨before, after, split, notBefore, isKey, rest⟩ := List.filter_eq_cons_iff.mp once
      cases beq_iff_eq.mp isKey
      exact .value split (fun entry member => by simpa using notBefore entry member)
        (filter_key_eq_nil_iff.mp rest)
    next => cases known
  · intro holds
    cases holds with
    | nothing absent => rw [known?, filter_key_eq_nil_iff.mpr absent]
    | @value before after value split notBefore notAfter =>
        have once : (entries.filter fun entry => entry.1 == key) = [(key, value)] :=
          List.filter_eq_cons_iff.mpr ⟨before, after, split,
            fun entry member => by simpa using notBefore entry member, beq_self_eq_true key,
            filter_key_eq_nil_iff.mpr notAfter⟩
        rw [known?, once]

/-- Entries with another key are immaterial. -/
theorem known?_filter_ne {other : String} (apart : key ≠ other) :
    known? (entries.filter fun entry => entry.1 != other) key = known? entries key := by
  have same (entry : String × α) :
      (entry.1 == key && entry.1 != other) = (entry.1 == key) := by
    by_cases isKey : entry.1 = key <;> simp [isKey, apart]
  rw [known?, known?, List.filter_filter]
  simp only [same]

end Known

/-! ## Fields -/

/-- The fields of a structure: those of an object are its known keys, and those of an array its
items, of which the last may be missing. -/
inductive HasFields (names : List String) : Layout α → List (Option α) → Prop where
  | entries {entries : List (String × α)} {fields : List (Option α)}
      (holds : List.Forall₂ (Holds entries) names fields) :
      HasFields names (.entries entries) fields
  | items {items : List α} (fits : items.length ≤ names.length) :
      HasFields names (.items items)
        (items.map some ++ List.replicate (names.length - items.length) none)

section Fields

variable {names : List String} {layout : Layout α} {fields : List (Option α)}

/-- The items in the places of the names, where there are no more items than names. -/
theorem mapIdx_getElem?_eq {items : List α} (fits : items.length ≤ names.length) :
    (names.mapIdx fun position _ => items[position]?) =
      items.map some ++ List.replicate (names.length - items.length) none := by
  apply List.ext_getElem
  · simp [fits]
  · intro position inNames inFields
    rw [List.getElem_mapIdx]
    by_cases within : position < items.length
    · simp [List.getElem_append_left, within]
    · rw [List.getElem?_eq_none (Nat.le_of_not_lt within),
        List.getElem_append_right (by simpa using within), List.getElem_replicate]

theorem fields?_eq_some_iff :
    fields? names layout = some fields ↔ HasFields names layout fields := by
  constructor
  · intro read
    unfold fields? at read
    split at read
    next entries =>
      simp only [mapM_eq_some_iff, known?_eq_some_iff] at read
      exact .entries read
    next items =>
      split at read
      next fits =>
        rw [mapIdx_getElem?_eq fits] at read
        cases read
        exact .items fits
      next => cases read
  · intro stands
    cases stands with
    | entries holds =>
        simp only [fields?, mapM_eq_some_iff, known?_eq_some_iff]
        exact holds
    | items fits => rw [fields?, if_pos fits, mapIdx_getElem?_eq fits]

/-- A key that is not a field's is immaterial. -/
theorem fields?_filter_ne {other : String} (unknown : other ∉ names)
    (entries : List (String × α)) :
    fields? names (.entries (entries.filter fun entry => entry.1 != other)) =
      fields? names (.entries entries) := by
  rw [fields?, fields?]
  induction names with
  | nil => rfl
  | cons name rest ih =>
      rw [List.mem_cons, not_or] at unknown
      rw [List.mapM_cons, List.mapM_cons, known?_filter_ne (Ne.symm unknown.1), ih unknown.2]

end Fields

/-- A 16-bit number is taken as it is, and no other number. -/
theorem portOf?_eq_some_iff {value : Int} {port : UInt16} :
    portOf? value = some port ↔ value = port.toNat := by
  have small : port.toNat < 65536 := port.toNat_lt
  rw [portOf?]
  constructor
  · intro read
    split at read
    next inRange =>
      cases read
      rw [UInt16.toNat_ofNat', Nat.mod_eq_of_lt (by omega), Int.toNat_of_nonneg inRange.1]
    next => cases read
  · rintro rfl
    rw [if_pos (by omega), Int.toNat_natCast, UInt16.ofNat_toNat]

end Form

namespace RawJson

/-! ## Raw documents -/

/-- The text that a key or a string stands for, and the value below it. -/
def IsNamed (entry : List Char × RawJson) (named : String × RawJson) : Prop :=
  IsText entry.1 named.1 ∧ named.2 = entry.2

/-- What a raw document stands as, where all its keys are texts. -/
inductive StandsAs : RawJson → Form.Layout RawJson → Prop where
  | object {entries : List (List Char × RawJson)} {named : List (String × RawJson)}
      (keys : List.Forall₂ IsNamed entries named) : StandsAs (.object entries) (.entries named)
  | array (items : List RawJson) : StandsAs (.array items) (.items items)

/-- The fields of a structure that a raw document stands for. -/
def HasFields (names : List String) (document : RawJson) (fields : List (Option RawJson)) : Prop :=
  ∃ layout, document.StandsAs layout ∧ Form.HasFields names layout fields

variable {names : List String} {document : RawJson}

theorem keyed?_eq_some_iff {entries : List (List Char × RawJson)}
    {named : List (String × RawJson)} :
    keyed? entries = some named ↔ List.Forall₂ IsNamed entries named := by
  rw [keyed?, Form.mapM_eq_some_iff]
  have each (entry : List Char × RawJson) (named : String × RawJson) :
      ((textOf? entry.1).map fun name => (name, entry.2)) = some named ↔ IsNamed entry named := by
    rw [Option.map_eq_some_iff, IsNamed]
    simp only [textOf?_eq_some_iff]
    constructor
    · rintro ⟨name, isText, rfl⟩
      exact ⟨isText, rfl⟩
    · rintro ⟨isText, same⟩
      exact ⟨named.1, isText, by rw [← same]⟩
  simp only [each]

theorem layout?_eq_some_iff {layout : Form.Layout RawJson} :
    document.layout? = some layout ↔ document.StandsAs layout := by
  constructor
  · intro found
    unfold layout? at found
    split at found
    next entries =>
      obtain ⟨named, keys, rfl⟩ := Option.map_eq_some_iff.mp found
      exact .object (keyed?_eq_some_iff.mp keys)
    next items =>
      cases found
      exact .array items
    next => cases found
  · intro stands
    cases stands with
    | object keys => rw [layout?, keyed?_eq_some_iff.mpr keys, Option.map_some]
    | array => rfl

theorem fields?_eq_some_iff {fields : List (Option RawJson)} :
    document.fields? names = some fields ↔ document.HasFields names fields := by
  simp only [fields?, Option.bind_eq_some_iff, layout?_eq_some_iff, Form.fields?_eq_some_iff,
    HasFields]

theorem keyed?_cons (entry : List Char × RawJson) (rest : List (List Char × RawJson)) :
    keyed? (entry :: rest) =
      (textOf? entry.1).bind fun name =>
        (keyed? rest).map fun named => (name, entry.2) :: named := by
  rw [keyed?, List.mapM_cons, ← keyed?]
  cases textOf? entry.1 with
  | none => rfl
  | some name => cases keyed? rest <;> rfl

theorem keyed?_filter_ne (other : String) (entries : List (List Char × RawJson)) :
    keyed? (entries.filter fun entry => textOf? entry.1 != some other) =
      (keyed? entries).map (List.filter fun named => named.1 != other) := by
  induction entries with
  | nil => rfl
  | cons entry rest ih =>
      rw [List.filter_cons, keyed?_cons]
      cases name : textOf? entry.1 with
      | none =>
          rw [if_pos (by rfl), keyed?_cons, name]
          rfl
      | some text =>
          by_cases isOther : text = other
          · rw [if_neg (by simp [isOther]), ih]
            cases keyed? rest with
            | none => rfl
            | some named => simp [isOther]
          · rw [if_pos (by simpa using isOther), keyed?_cons, name, ih]
            cases keyed? rest with
            | none => rfl
            | some named => simp [isOther]

/-- Entries with a key that is not a field's are immaterial. -/
theorem fields?_filter_ne {other : String} (unknown : other ∉ names)
    (entries : List (List Char × RawJson)) :
    (object (entries.filter fun entry => textOf? entry.1 != some other)).fields? names =
      (object entries).fields? names := by
  rw [fields?, fields?, layout?, layout?, keyed?_filter_ne]
  cases keyed? entries with
  | none => rfl
  | some named => exact Form.fields?_filter_ne unknown named

theorem text?_eq_some_iff {text : String} :
    document.text? = some text ↔ ∃ inside, document = .string inside ∧ IsText inside text := by
  cases document <;> simp [text?, textOf?_eq_some_iff]

/-! ## Lists and numbers -/

/-- The list that a field is: none where the field is missing, and else as many values as the field
has items, each standing for its own. -/
inductive IsList {α : Type} (stands : RawJson → α → Prop) : Option RawJson → List α → Prop where
  | missing : IsList stands none []
  | items {items : List RawJson} {values : List α} (each : List.Forall₂ stands items values) :
      IsList stands (some (.array items)) values

theorem listOrEmpty?_eq_some_iff {α : Type} {read : RawJson → Option α}
    {stands : RawJson → α → Prop}
    (exact : ∀ document value, read document = some value ↔ stands document value)
    {field : Option RawJson} {values : List α} :
    listOrEmpty? read field = some values ↔ IsList stands field values := by
  constructor
  · intro listed
    cases field with
    | none =>
        cases listed
        exact .missing
    | some document =>
        cases document with
        | array items =>
            rw [listOrEmpty?, Form.mapM_eq_some_iff] at listed
            simp only [exact] at listed
            exact .items listed
        | _ => cases listed
  · intro isList
    cases isList with
    | missing => rfl
    | items each =>
        rw [listOrEmpty?, Form.mapM_eq_some_iff]
        simp only [exact]
        exact each

/-- A port is written with digits only. -/
theorem port?_eq_some_iff {port : UInt16} :
    document.port? = some port ↔
      ∃ literal : NumberLiteral, document = .number literal ∧ literal.IsDigits port.toNat := by
  have small : port.toNat ≤ Text.maxNat64 :=
    Nat.le_of_lt (Nat.lt_of_lt_of_le port.toNat_lt (by decide))
  have read (literal : NumberLiteral) :
      literal.whole?.bind Form.portOf? = some port ↔ literal.IsDigits port.toNat := by
    rw [← NumberLiteral.whole?_eq_natCast_iff small, Option.bind_eq_some_iff]
    simp only [Form.portOf?_eq_some_iff, exists_eq_right]
  cases document <;> simp [port?, read]

end RawJson

end ClusterQuery

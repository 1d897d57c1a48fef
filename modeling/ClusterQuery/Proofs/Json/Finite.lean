import ClusterQuery.Json.Reader
import ClusterQuery.Proofs.Json.DocumentText

/-!
# What is read is finite

A number literal is read into a word of digits, which is divided by powers of ten or multiplied by
one. Division by a power of ten does not make a finite number larger, and a product that is infinite
is refused. So every number that is read is finite, and so are the documents made of them.
-/

namespace ClusterQuery

namespace Binary64

variable {x y : Binary64}

/-- What is no greater than a finite number is rounded to a finite one. -/
theorem isFinite_ofQuotient {numerator denominator : ℕ} (positive : 0 < denominator)
    (finite : x.isFinite = true) (atMost : numerator * x.denominator ≤ x.numerator * denominator)
    (negative : Bool) : (ofQuotient negative numerator denominator).isFinite = true := by
  rw [isFinite, decide_eq_true_eq] at *
  rw [magnitude_ofQuotient]
  calc nearestMagnitude numerator denominator
      ≤ nearestMagnitude x.numerator x.denominator :=
        nearestMagnitude_mono positive x.denominator_pos atMost
    _ = x.magnitude := nearestMagnitude_self (decide_eq_true finite)
    _ < infiniteMagnitude := finite

/-- Division by a number that is not below one keeps a number finite. -/
theorem isFinite_div (finite : x.isFinite = true) (large : y.denominator ≤ y.numerator) :
    (x.div y).isFinite = true := by
  have positive : 0 < y.numerator := Nat.lt_of_lt_of_le y.denominator_pos large
  apply isFinite_ofQuotient (Nat.mul_pos x.denominator_pos positive) finite
  rw [Nat.mul_right_comm, Nat.mul_assoc]
  exact Nat.mul_le_mul_left _ (Nat.mul_le_mul_left _ large)

/-- A number whose magnitude is not below that of one is not below one. -/
theorem denominator_le_numerator (large : 1023 * 2 ^ 52 ≤ x.magnitude) :
    x.denominator ≤ x.numerator := by
  have few : (-x.exponent).toNat ≤ 52 := by
    simp only [exponent, Nat.pow_eq]
    split <;> omega
  have full : 2 ^ 52 ≤ x.significand := by
    simp only [significand, Nat.pow_eq]
    split <;> omega
  calc x.denominator
      ≤ 2 ^ 52 := Nat.pow_le_pow_right Nat.two_pos few
    _ ≤ x.significand := full
    _ ≤ x.numerator := Nat.le_mul_of_pos_right _ (Nat.pow_pos Nat.two_pos)

/-- A product is finite unless it is infinite: it is no NaN. -/
theorem isFinite_mul (notInfinite : (x.mul y).isInfinite = false) : (x.mul y).isFinite = true := by
  rw [isInfinite, beq_eq_false_iff_ne] at notInfinite
  rw [isFinite, decide_eq_true_eq]
  apply Nat.lt_of_le_of_ne _ notInfinite
  rw [mul, magnitude_ofQuotient]
  exact nearestMagnitude_le _ _

theorem isFinite_neg (finite : x.isFinite = true) : x.neg.isFinite = true := by
  rwa [isFinite, neg, magnitude_ofMagnitude x.magnitude_lt]

/-- A word is converted to a finite number. -/
theorem isFinite_ofNat {word : ℕ} (inWord : word ≤ Text.maxNat64) :
    (ofNat word).isFinite = true := by
  let limit : Binary64 := ofMagnitude false (1087 * 2 ^ 52)
  have isLimit : limit.denominator = 1 ∧ Text.maxNat64 ≤ limit.numerator := by decide +kernel
  apply isFinite_ofQuotient Nat.one_pos (x := limit) rfl
  rw [isLimit.1, Nat.mul_one, Nat.mul_one]
  exact Nat.le_trans inWord isLimit.2

end Binary64

/-! ## Number literals -/

namespace NumberLiteral

theorem word_collectWhole {word : ℕ} (inWord : word ≤ Text.maxNat64) (digits : List Char) :
    (collectWhole word digits).word ≤ Text.maxNat64 := by
  induction digits generalizing word with
  | nil => exact inWord
  | cons c digits ih =>
      rw [collectWhole]
      split
      next fits => exact ih fits
      next => exact inWord

theorem word_collectFraction {collected : Collected} (inWord : collected.word ≤ Text.maxNat64)
    (digits : List Char) : (collectFraction collected digits).word ≤ Text.maxNat64 := by
  induction digits generalizing collected with
  | nil => exact inWord
  | cons c digits ih =>
      rw [collectFraction]
      split
      next fits => exact ih fits
      next => exact inWord

/-- No power of ten that scales a word is below one. -/
theorem denominator_le_numerator_powerOfTen (exponent : ℕ) :
    (powerOfTen exponent).denominator ≤ (powerOfTen exponent).numerator := by
  apply Binary64.denominator_le_numerator
  have one : Binary64.nearestMagnitude 1 1 = 1023 * 2 ^ 52 := by decide +kernel
  rw [powerOfTen, Binary64.ofDecimal, Binary64.magnitude_ofQuotient, ← one]
  apply Binary64.nearestMagnitude_mono Nat.one_pos (Nat.pow_pos (by decide))
  have unit : (-(exponent : Int)).toNat = 0 := by omega
  rw [unit, Nat.one_mul, Nat.one_mul, Nat.mul_one]
  exact Nat.pow_pos (by decide)

theorem isFinite_scaleDown {value : Binary64} (finite : value.isFinite = true) (exponent : ℕ) :
    (scaleDown value exponent).isFinite = true := by
  have divided (value : Binary64) (finite : value.isFinite = true) (exponent : ℕ) :
      (value.div (powerOfTen exponent)).isFinite = true :=
    Binary64.isFinite_div finite (denominator_le_numerator_powerOfTen exponent)
  fun_induction scaleDown value exponent with
  | case1 value exponent few => exact divided value finite exponent
  | case2 value exponent many isZero => exact finite
  | case3 value exponent many notZero ih => exact ih (divided value finite 308)

theorem isFinite_of_scaled {word : ℕ} {scale : Int} {value : Binary64}
    (inWord : word ≤ Text.maxNat64) (read : scaled word scale = some value) :
    value.isFinite = true := by
  have converted := Binary64.isFinite_ofNat inWord
  simp only [scaled] at read
  split at read
  next =>
    cases read
    exact isFinite_scaleDown converted _
  next =>
    split at read
    next =>
      cases read
      exact converted
    next =>
      split at read
      next => cases read
      next =>
        split at read
        next => cases read
        next finite =>
          cases read
          exact Binary64.isFinite_mul (Bool.eq_false_iff.mpr finite)

/-- The number that a literal denotes is finite. -/
theorem isFinite_of_value? {literal : NumberLiteral} {number : JsonNumber}
    (read : literal.value? = some number) : number.isFinite = true := by
  rw [value?] at read
  split at read
  next =>
    cases read
    rfl
  next =>
    obtain ⟨value, floating, rfl⟩ := Option.map_eq_some_iff.mp read
    obtain ⟨scaledValue, isScaled, rfl⟩ := Option.map_eq_some_iff.mp floating
    have finite := isFinite_of_scaled (word_collectFraction (word_collectWhole (Nat.zero_le _) _) _)
      isScaled
    cases literal.negative with
    | true => exact Binary64.isFinite_neg finite
    | false => exact finite

end NumberLiteral

/-! ## Tokens -/

namespace JsonToken

/-- Whether the value of a token is finite, if it has one. -/
def isFinite : JsonToken → Bool
  | .literal value => value.isFinite
  | _ => true

theorem isFinite_of_next? {text rest : List Char} {token : JsonToken}
    (read : next? text = some (token, rest)) : token.isFinite = true := by
  unfold next? at read
  split at read
  case h_7 =>
    obtain ⟨_, -, equal⟩ := Option.map_eq_some_iff.mp read
    cases equal
    rfl
  case h_11 =>
    simp only [Option.bind_eq_bind, Option.bind_eq_some_iff] at read
    obtain ⟨⟨literal, others⟩, -, number, isNumber, equal⟩ := read
    cases equal
    exact NumberLiteral.isFinite_of_value? isNumber
  all_goals
    cases read
    rfl

theorem isFinite_of_scanWithin {steps : Nat} {text : List Char} {tokens : List JsonToken}
    (scanned : scanWithin steps text = some tokens) : ∀ token ∈ tokens, token.isFinite = true := by
  induction steps generalizing text tokens with
  | zero =>
      cases text with
      | nil =>
          cases scanned
          exact List.forall_mem_nil _
      | cons c rest => cases scanned
  | succ steps ih =>
      cases text with
      | nil =>
          cases scanned
          exact List.forall_mem_nil _
      | cons c rest =>
          rw [scanWithin] at scanned
          split at scanned
          next => exact ih scanned
          next =>
            simp only [Option.bind_eq_bind, Option.bind_eq_some_iff] at scanned
            obtain ⟨⟨token, after⟩, isNext, others, isRest, equal⟩ := scanned
            cases equal
            exact List.forall_mem_cons.mpr ⟨isFinite_of_next? isNext, ih isRest⟩

end JsonToken

/-! ## Documents -/

namespace Json

theorem itemsFinite_iff {items : List Json} :
    itemsFinite items = true ↔ ∀ item ∈ items, item.isFinite = true := by
  induction items with
  | nil => simp [itemsFinite]
  | cons item items ih => simp [itemsFinite, ih]

theorem entriesFinite_iff {entries : List (String × Json)} :
    entriesFinite entries = true ↔ ∀ entry ∈ entries, entry.2.isFinite = true := by
  induction entries with
  | nil => simp [entriesFinite]
  | cons entry entries ih => simp [entriesFinite, ih]

end Json

namespace JsonReader

/-- Whether everything in an open container is finite. -/
def Frame.isFinite : Frame → Bool
  | .array items => Json.itemsFinite items
  | .object entries => Json.entriesFinite entries
  | .entry entries _ => Json.entriesFinite entries

/-- Whether everything that was read so far is finite. -/
structure State.Finite (state : State) : Prop where
  frames : ∀ frame ∈ state.frames, frame.isFinite = true
  finished : ∀ document, state.expects = .finished document → document.isFinite = true

variable {state next : State} {frames : List Frame} {token : JsonToken}

theorem finite_accept {value : Json} (valueFinite : value.isFinite = true)
    (finite : ∀ frame ∈ frames, frame.isFinite = true)
    (accepted : accept value frames = some next) : next.Finite := by
  unfold accept at accepted
  split at accepted
  next =>
    cases accepted
    refine ⟨finite, ?_⟩
    rintro document equal
    cases equal
    exact valueFinite
  next items outer =>
    cases accepted
    obtain ⟨itemsFinite, outerFinite⟩ := List.forall_mem_cons.mp finite
    refine ⟨List.forall_mem_cons.mpr ⟨?_, outerFinite⟩, nofun⟩
    exact Bool.and_eq_true_iff.mpr ⟨valueFinite, itemsFinite⟩
  next entries key outer =>
    cases accepted
    obtain ⟨entriesFinite, outerFinite⟩ := List.forall_mem_cons.mp finite
    refine ⟨List.forall_mem_cons.mpr ⟨?_, outerFinite⟩, nofun⟩
    exact Bool.and_eq_true_iff.mpr ⟨valueFinite, entriesFinite⟩
  next => cases accepted

theorem finite_begin (tokenFinite : token.isFinite = true)
    (finite : ∀ frame ∈ frames, frame.isFinite = true) (begun : begin token frames = some next) :
    next.Finite := by
  unfold begin at begun
  split at begun
  next => exact finite_accept tokenFinite finite begun
  next => exact finite_accept rfl finite begun
  next =>
    split at begun
    next =>
      cases begun
      exact ⟨List.forall_mem_cons.mpr ⟨rfl, finite⟩, nofun⟩
    next => cases begun
  next =>
    split at begun
    next =>
      cases begun
      exact ⟨List.forall_mem_cons.mpr ⟨rfl, finite⟩, nofun⟩
    next => cases begun
  next => cases begun

theorem finite_close (finite : ∀ frame ∈ frames, frame.isFinite = true)
    (closed : close token frames = some next) : next.Finite := by
  unfold close at closed
  split at closed
  next items outer =>
    obtain ⟨itemsFinite, outerFinite⟩ := List.forall_mem_cons.mp finite
    refine finite_accept ?_ outerFinite closed
    refine Json.itemsFinite_iff.mpr fun item member => ?_
    exact Json.itemsFinite_iff.mp itemsFinite item (List.mem_reverse.mp member)
  next entries outer =>
    obtain ⟨entriesFinite, outerFinite⟩ := List.forall_mem_cons.mp finite
    refine finite_accept ?_ outerFinite closed
    refine Json.entriesFinite_iff.mpr fun entry member => ?_
    exact Json.entriesFinite_iff.mp entriesFinite entry (List.mem_reverse.mp member)
  next => cases closed

theorem finite_takeKey (finite : ∀ frame ∈ frames, frame.isFinite = true)
    (taken : takeKey token frames = some next) : next.Finite := by
  unfold takeKey at taken
  split at taken
  next =>
    cases taken
    obtain ⟨entriesFinite, outerFinite⟩ := List.forall_mem_cons.mp finite
    exact ⟨List.forall_mem_cons.mpr ⟨entriesFinite, outerFinite⟩, nofun⟩
  next => cases taken

theorem finite_afterComma (finite : ∀ frame ∈ frames, frame.isFinite = true)
    (went : afterComma frames = some next) : next.Finite := by
  unfold afterComma at went
  split at went
  next =>
    cases went
    exact ⟨finite, nofun⟩
  next =>
    cases went
    exact ⟨finite, nofun⟩
  next => cases went

/-- A finite token keeps what was read finite. -/
theorem State.Finite.step (finite : state.Finite) (tokenFinite : token.isFinite = true)
    (stepped : JsonReader.step state token = some next) : next.Finite := by
  unfold JsonReader.step at stepped
  split at stepped
  next => exact finite_begin tokenFinite finite.frames stepped
  next => exact finite_close finite.frames stepped
  next => exact finite_begin tokenFinite finite.frames stepped
  next => exact finite_close finite.frames stepped
  next => exact finite_takeKey finite.frames stepped
  next => exact finite_takeKey finite.frames stepped
  next =>
    cases stepped
    exact ⟨finite.frames, nofun⟩
  next => exact finite_afterComma finite.frames stepped
  next => exact finite_close finite.frames stepped
  next => cases stepped

theorem State.Finite.foldlM (finite : state.Finite) {tokens : List JsonToken}
    (tokensFinite : ∀ token ∈ tokens, token.isFinite = true)
    (stepped : tokens.foldlM JsonReader.step state = some next) : next.Finite := by
  induction tokens generalizing state with
  | nil =>
      cases stepped
      exact finite
  | cons token tokens ih =>
      rw [List.foldlM_cons, Option.bind_eq_bind, Option.bind_eq_some_iff] at stepped
      obtain ⟨between, first, others⟩ := stepped
      obtain ⟨tokenFinite, othersFinite⟩ := List.forall_mem_cons.mp tokensFinite
      exact ih (finite.step tokenFinite first) othersFinite others

end JsonReader

namespace Json

theorem isFinite_of_readWritten? {text : String} {document : Json}
    (read : readWritten? text = some document) : document.isFinite = true := by
  obtain ⟨tokens, scanned, built⟩ := Option.bind_eq_some_iff.mp read
  rw [ofTokens?, Option.bind_eq_bind, Option.bind_eq_some_iff] at built
  obtain ⟨state, stepped, finished⟩ := built
  have finite : JsonReader.start.Finite := ⟨List.forall_mem_nil _, nofun⟩
  split at finished
  next isFinished =>
    cases finished
    exact (finite.foldlM (JsonToken.isFinite_of_scanWithin scanned) stepped).finished _ isFinished
  next => cases finished

theorem entriesFinite_insertEntry {key : String} {value : Json}
    (valueFinite : value.isFinite = true) {entries : List (String × Json)}
    (finite : entriesFinite entries = true) :
    entriesFinite (insertEntry key value entries) = true := by
  induction entries with
  | nil => simp [insertEntry, entriesFinite, valueFinite]
  | cons entry entries ih =>
      simp only [entriesFinite, Bool.and_eq_true] at finite
      simp only [insertEntry]
      split
      · simp [entriesFinite, valueFinite, finite]
      · split <;> simp [entriesFinite, valueFinite, finite, ih]

theorem isFinite_objectOf {entries : List (String × Json)} (finite : entriesFinite entries = true) :
    (objectOf entries).isFinite = true := by
  have inserted (sorted : List (String × Json)) (sortedFinite : entriesFinite sorted = true) :
      entriesFinite (entries.foldl
        (fun sorted entry => insertEntry entry.1 entry.2 sorted) sorted) = true := by
    induction entries generalizing sorted with
    | nil => exact sortedFinite
    | cons entry entries ih =>
        simp only [entriesFinite, Bool.and_eq_true] at finite
        exact ih finite.2 _ (entriesFinite_insertEntry finite.1 sortedFinite)
  exact inserted [] rfl

mutual

theorem isFinite_canonical (document : Json) (finite : document.isFinite = true) :
    document.canonical.isFinite = true := by
  cases document with
  | array items => exact itemsFinite_canonicalItems items finite
  | object entries => exact isFinite_objectOf (entriesFinite_canonicalEntries entries finite)
  | _ => exact finite

theorem itemsFinite_canonicalItems (items : List Json) (finite : itemsFinite items = true) :
    itemsFinite (canonicalItems items) = true := by
  match items with
  | [] => rfl
  | item :: items =>
      simp only [itemsFinite, Bool.and_eq_true] at finite
      simp only [canonicalItems, itemsFinite, Bool.and_eq_true]
      exact ⟨isFinite_canonical item finite.1, itemsFinite_canonicalItems items finite.2⟩

theorem entriesFinite_canonicalEntries (entries : List (String × Json))
    (finite : entriesFinite entries = true) : entriesFinite (canonicalEntries entries) = true := by
  match entries with
  | [] => rfl
  | (_, value) :: entries =>
      simp only [entriesFinite, Bool.and_eq_true] at finite
      simp only [canonicalEntries, entriesFinite, Bool.and_eq_true]
      exact ⟨isFinite_canonical value finite.1, entriesFinite_canonicalEntries entries finite.2⟩

end

/-- A document that was read is finite. -/
theorem isFinite_of_read? {text : String} {document : Json} (read : read? text = some document) :
    document.isFinite = true := by
  obtain ⟨written, readWritten, rfl⟩ := Option.map_eq_some_iff.mp read
  exact isFinite_canonical written (isFinite_of_readWritten? readWritten)

end Json

end ClusterQuery

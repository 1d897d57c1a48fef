import ClusterQuery.Json.Token
import ClusterQuery.Json.Writer
import ClusterQuery.Proofs.Json.NumberGrammar
import ClusterQuery.Proofs.Number.Rounding

/-!
# Numbers in documents

A number in a document is written as a literal, and reading the literal gives back what was
written, with whatever follows it. A whole number is the literal's digits; a floating point number
is the one nearest to the decimal that the literal spells, in either layout. So different numbers
are written differently.
-/

namespace ClusterQuery

/-- Whether a number is neither infinite nor a NaN, which no literal spells. -/
def JsonNumber.isFinite : JsonNumber → Bool
  | .whole _ => true
  | .floating value => value.isFinite

namespace NumberLiteral

/-- An exponent with its mark and sign, where there is one. -/
def exponentChars : Option Int → List Char
  | none => []
  | some exponent => 'e' :: (if exponent < 0 then '-' else '+') :: Text.writeNat exponent.natAbs

/-- The text of a literal. -/
def chars (literal : NumberLiteral) : List Char :=
  Binary64.signed literal.negative
    (literal.whole ++ fractionChars literal.fraction ++ exponentChars literal.exponent)

/-- The number nearest to what a literal spells; without point and exponent it is whole. -/
def nearest (literal : NumberLiteral) : JsonNumber :=
  let value := Text.digitsValue (literal.whole ++ literal.fraction.getD [])
  if literal.fraction.isSome || literal.exponent.isSome then
    .floating (Binary64.ofDecimal literal.negative value
      (literal.exponent.getD 0 - (literal.fraction.getD []).length))
  else .whole (if literal.negative then -value else value)

/-! ## Reading a literal -/

theorem exponentSpeltBy_exponentChars (exponent : Option Int) :
    ExponentSpeltBy exponent (exponentChars exponent) := by
  cases exponent with
  | none => exact .none
  | some exponent =>
      have digits : ∀ c ∈ Text.writeNat exponent.natAbs, Text.isDigit c = true :=
        fun _ => Text.isDigit_of_mem_writeNat
      by_cases negative : exponent < 0
      · have value : -(exponent.natAbs : Int) = exponent := by omega
        have spelt : ExponentSpeltBy
            (some (-(Text.digitsValue (Text.writeNat exponent.natAbs) : Int)))
            ('e' :: (['-'] ++ Text.writeNat exponent.natAbs)) :=
          .written (.inl rfl) .minus digits Nat.toDigits_ne_nil
        rw [Text.digitsValue_writeNat, value] at spelt
        rw [exponentChars, if_pos negative]
        exact spelt
      · have value : (exponent.natAbs : Int) = exponent := by omega
        have spelt : ExponentSpeltBy
            (some (Text.digitsValue (Text.writeNat exponent.natAbs) : Int))
            ('e' :: (['+'] ++ Text.writeNat exponent.natAbs)) :=
          .written (.inl rfl) .plus digits Nat.toDigits_ne_nil
        rw [Text.digitsValue_writeNat, value] at spelt
        rw [exponentChars, if_neg negative]
        exact spelt

/-- A literal is read up to where its text ends. -/
theorem read?_chars {literal : NumberLiteral} (proper : literal.Proper) {rest : List Char}
    (ends : endsBefore rest = true) : read? (literal.chars ++ rest) = some (literal, rest) :=
  read?_of_speltBy (.intro proper (exponentSpeltBy_exponentChars literal.exponent)) ends

/-! ## Writing a literal -/

/-- The literal with given significant digits, the first of which has the given exponent. -/
def ofDigits (negative : Bool) (digits : List Char) (exponent : Int) : NumberLiteral :=
  if -5 ≤ exponent ∧ exponent < 16 then
    let (whole, fraction) := Decimal.placed digits exponent
    ⟨negative, whole, some (if fraction = [] then ['0'] else fraction), none⟩
  else
    ⟨negative, digits.take 1, if digits.drop 1 = [] then none else some (digits.drop 1),
      some exponent⟩

/-- The literal by which a number is written. -/
def ofNumber : JsonNumber → NumberLiteral
  | .whole value => ⟨value < 0, Text.writeNat value.natAbs, none, none⟩
  | .floating value =>
      if value.isZero then ⟨value.isNegative, ['0'], some ['0'], none⟩
      else
        let decimal := Decimal.shortest value
        ofDigits value.isNegative decimal.significant decimal.scientificExponent

theorem chars_ofDigits (negative : Bool) (digits : List Char) (exponent : Int) :
    (ofDigits negative digits exponent).chars =
      Binary64.signed negative
        (if -5 ≤ exponent ∧ exponent < 16 then
          Decimal.joinPointed (Decimal.placed digits exponent)
        else Decimal.scientific digits exponent) := by
  rw [ofDigits]
  split
  next =>
    obtain ⟨whole, fraction⟩ := Decimal.placed digits exponent
    cases fraction <;> simp [chars, fractionChars, exponentChars, Decimal.joinPointed]
  next =>
    cases fraction : digits.drop 1 <;>
      simp [chars, fractionChars, exponentChars, Decimal.scientific, Decimal.joinPlain, fraction]

theorem chars_ofNumber (number : JsonNumber) :
    (ofNumber number).chars = Json.numberChars number := by
  cases number with
  | whole value =>
      cases value <;> simp [ofNumber, chars, fractionChars, exponentChars, Binary64.signed,
        Json.numberChars, Text.writeInt]
  | floating value =>
      rw [ofNumber, Json.numberChars, Binary64.documentChars]
      split
      next => rfl
      next => exact chars_ofDigits _ _ _

/-- Digits that begin with one that is not zero. -/
structure Leading (digits : List Char) : Prop where
  all : ∀ c ∈ digits, Text.isDigit c = true
  ne_nil : digits ≠ []
  head?_ne : digits.head? ≠ some '0'

/-- Where the point and the digits go: zeros between the two, zeros between the digits and the
point, the point among the digits, or an exponent after one digit or several. -/
inductive Layout (negative : Bool) (digits : List Char) : Int → NumberLiteral → Prop where
  | small (zeros : Nat) :
      Layout negative digits (-1 - zeros)
        ⟨negative, ['0'], some (List.replicate zeros '0' ++ digits), none⟩
  | large (zeros : Nat) :
      Layout negative digits (digits.length + zeros - 1)
        ⟨negative, digits ++ List.replicate zeros '0', some ['0'], none⟩
  | amid {whole fraction : List Char} (cut : digits = whole ++ fraction) (some : whole ≠ [])
      (more : fraction ≠ []) :
      Layout negative digits (whole.length - 1) ⟨negative, whole, Option.some fraction, none⟩
  | single {first : Char} (one : digits = [first]) (exponent : Int) :
      Layout negative digits exponent ⟨negative, [first], none, some exponent⟩
  | several {first : Char} {fraction : List Char} (cut : digits = first :: fraction)
      (more : fraction ≠ []) (exponent : Int) :
      Layout negative digits exponent ⟨negative, [first], some fraction, some exponent⟩

variable {digits : List Char} {negative : Bool} {exponent : Int} {literal : NumberLiteral}

theorem layout_ofDigits (notEmpty : digits ≠ []) (negative : Bool) (exponent : Int) :
    Layout negative digits exponent (ofDigits negative digits exponent) := by
  by_cases positional : -5 ≤ exponent ∧ exponent < 16
  · by_cases isSmall : exponent < 0
    · obtain ⟨zeros, rfl⟩ : ∃ zeros : Nat, exponent = -1 - zeros :=
        ⟨(-exponent - 1).toNat, by omega⟩
      have count : (-(-1 - (zeros : Int)) - 1).toNat = zeros := by omega
      have some : List.replicate zeros '0' ++ digits ≠ [] :=
        List.append_ne_nil_of_right_ne_nil _ notEmpty
      simp only [ofDigits, if_pos positional, Decimal.placed, if_pos isSmall, count, if_neg some]
      exact .small zeros
    · obtain ⟨below, rfl⟩ : ∃ below : Nat, exponent = below :=
        Int.eq_ofNat_of_zero_le (Int.not_lt.mp isSmall)
      simp only [ofDigits, if_pos positional, Decimal.placed, if_neg isSmall, Int.toNat_natCast]
      by_cases fits : digits.length ≤ below + 1
      · obtain ⟨zeros, room⟩ := Nat.exists_eq_add_of_le fits
        have exponent : (below : Int) = digits.length + zeros - 1 := by omega
        rw [List.take_of_length_le fits, List.drop_of_length_le fits, room, Nat.add_sub_cancel_left,
          exponent]
        exact .large zeros
      · have some : digits.take (below + 1) ≠ [] := by simp [notEmpty]
        have more : digits.drop (below + 1) ≠ [] := by
          rw [ne_eq, List.drop_eq_nil_iff]
          exact fits
        have layout := @Layout.amid negative digits _ _
          (List.take_append_drop (below + 1) digits).symm some more
        have noZeros : below + 1 - digits.length = 0 := by omega
        have exponent : ((digits.take (below + 1)).length : Int) - 1 = below := by
          rw [List.length_take]
          omega
        rw [exponent] at layout
        rwa [noZeros, List.replicate_zero, List.append_nil, if_neg more]
  · obtain ⟨first, fraction, rfl⟩ := List.exists_cons_of_ne_nil notEmpty
    simp only [ofDigits, if_neg positional, List.take_succ_cons, List.take_zero,
      List.drop_succ_cons, List.drop_zero]
    split
    next none =>
      subst none
      exact .single rfl exponent
    next more => exact .several rfl more exponent

/-- What a literal is nearest to, told by its digits without regard to the point. -/
theorem nearest_eq_of_value {value : Nat} (zeros : Nat)
    (pointed : literal.fraction.isSome = true ∨ literal.exponent.isSome = true)
    (spelled : Text.digitsValue (literal.whole ++ literal.fraction.getD []) = value * 10 ^ zeros)
    (scale : literal.exponent.getD 0 - (literal.fraction.getD []).length + zeros = exponent) :
    literal.nearest =
      .floating (Binary64.ofDecimal literal.negative value exponent) := by
  rw [nearest, if_pos (Bool.or_eq_true_iff.mpr pointed), spelled, Binary64.ofDecimal_mul_pow, scale]

theorem Layout.proper (layout : Layout negative digits exponent literal)
    (leading : Leading digits) : literal.Proper := by
  obtain ⟨all, notEmpty, notZero⟩ := leading
  have zeroes {count : Nat} := fun c => @Text.isDigit_of_mem_zeros count c
  have oneZero : ∀ c ∈ ['0'], Text.isDigit c = true := List.forall_mem_singleton.mpr rfl
  cases layout with
  | small zeros =>
      have fraction := List.forall_mem_append.mpr ⟨@zeroes zeros, all⟩
      exact ⟨oneZero, fraction, by simp, by simp [notEmpty], fun _ => Nat.le_refl 1⟩
  | large zeros =>
      have whole := List.forall_mem_append.mpr ⟨all, @zeroes zeros⟩
      refine ⟨whole, oneZero, by simp [notEmpty], by simp, fun zero => ?_⟩
      rw [List.head?_append_of_ne_nil _ notEmpty] at zero
      exact absurd zero notZero
  | amid cut some more =>
      subst cut
      obtain ⟨whole, fraction⟩ := List.forall_mem_append.mp all
      refine ⟨whole, fraction, some, by simpa using more, fun zero => ?_⟩
      rw [List.head?_append_of_ne_nil _ some] at notZero
      exact absurd zero notZero
  | single one exponent =>
      subst one
      exact ⟨all, List.forall_mem_nil _, by simp, by simp, fun _ => Nat.le_refl 1⟩
  | several cut more exponent =>
      subst cut
      rw [List.forall_mem_cons] at all
      exact ⟨by simp [all.1], all.2, by simp, by simpa using more, fun _ => Nat.le_refl 1⟩

/-- Wherever the point goes, the literal is nearest to what its digits denote. -/
theorem Layout.nearest_eq (layout : Layout negative digits exponent literal)
    (all : ∀ c ∈ digits, Text.isDigit c = true) :
    literal.nearest = .floating
      (Binary64.ofDecimal negative (Text.digitsValue digits) (exponent + 1 - digits.length)) := by
  cases layout with
  | small zeros =>
      have value := Text.digitsValue_zeros_append all (zeros + 1)
      apply nearest_eq_of_value 0 (.inl rfl)
      · rw [Nat.pow_zero, Nat.mul_one, ← value]
        rfl
      · simp only [Option.getD_some, Option.getD_none, List.length_append, List.length_replicate]
        omega
  | large zeros =>
      have value := Text.digitsValue_append_zeros all (zeros + 1)
      apply nearest_eq_of_value (zeros + 1) (.inl rfl)
      · rw [← value, List.replicate_succ', ← List.append_assoc]
        rfl
      · simp only [Option.getD_some, Option.getD_none, List.length_singleton]
        omega
  | amid cut some more =>
      apply nearest_eq_of_value 0 (.inl rfl)
      · rw [Nat.pow_zero, Nat.mul_one, cut]
        rfl
      · simp only [cut, Option.getD_some, Option.getD_none, List.length_append]
        omega
  | single one exponent =>
      apply nearest_eq_of_value 0 (.inr rfl)
      · rw [Nat.pow_zero, Nat.mul_one, one]
        rfl
      · simp only [one, Option.getD_some, Option.getD_none, List.length_nil, List.length_singleton]
        omega
  | several cut more exponent =>
      apply nearest_eq_of_value 0 (.inr rfl)
      · rw [Nat.pow_zero, Nat.mul_one, cut]
        rfl
      · simp only [cut, Option.getD_some, List.length_cons]
        omega

end NumberLiteral

namespace Decimal

/-- The digits of a decimal are its significant ones and zeros. -/
theorem exists_writeNat_eq (decimal : Decimal) :
    ∃ zeros, Text.writeNat decimal.digits =
      decimal.significant ++ List.replicate zeros '0' := by
  let reversed := (Text.writeNat decimal.digits).reverse
  refine ⟨(reversed.takeWhile (· == '0')).length, ?_⟩
  have zeros : reversed.takeWhile (· == '0') =
      List.replicate (reversed.takeWhile (· == '0')).length '0' := by
    rw [List.eq_replicate_iff]
    refine ⟨rfl, fun c member => ?_⟩
    exact beq_iff_eq.mp (List.all_eq_true.mp List.all_takeWhile c member)
  have cut := congrArg List.reverse
    (List.takeWhile_append_dropWhile (p := (· == '0')) (l := reversed))
  rw [List.reverse_append, List.reverse_reverse, zeros, List.reverse_replicate] at cut
  exact cut.symm

theorem leading_significant {decimal : Decimal} (positive : 0 < decimal.digits) :
    NumberLiteral.Leading decimal.significant := by
  obtain ⟨zeros, written⟩ := decimal.exists_writeNat_eq
  have some : decimal.significant ≠ [] := by
    intro none
    have value := Text.digitsValue_writeNat decimal.digits
    have noValue : Text.digitsValue [] = 0 := rfl
    rw [written, none, Text.digitsValue_append_zeros (List.forall_mem_nil _), noValue,
      Nat.zero_mul] at value
    exact absurd value (Nat.ne_of_lt positive)
  have notZero := Text.head?_writeNat_ne positive
  rw [written, List.head?_append_of_ne_nil _ some] at notZero
  refine ⟨fun c member => ?_, some, notZero⟩
  exact Text.isDigit_of_mem_writeNat (written ▸ List.mem_append_left _ member)

/-- The significant digits of a decimal and the exponent of the first one are all that there is to
its value. -/
theorem ofDecimal_significant {decimal : Decimal} (positive : 0 < decimal.digits)
    (negative : Bool) :
    Binary64.ofDecimal negative (Text.digitsValue decimal.significant)
        (decimal.scientificExponent + 1 - decimal.significant.length) =
      Binary64.ofDecimal negative decimal.digits decimal.exponent := by
  obtain ⟨zeros, written⟩ := decimal.exists_writeNat_eq
  have value := Text.digitsValue_writeNat decimal.digits
  rw [written, Text.digitsValue_append_zeros (leading_significant positive).all] at value
  have count : digitCount decimal.digits = decimal.significant.length + zeros := by
    rw [digitCount, ← Text.writeNat, written, List.length_append, List.length_replicate]
  conv_rhs => rw [← value, Binary64.ofDecimal_mul_pow]
  congr 1
  rw [scientificExponent, count]
  omega

end Decimal

namespace NumberLiteral

theorem proper_ofNumber {number : JsonNumber} (finite : number.isFinite = true) :
    (ofNumber number).Proper := by
  cases number with
  | whole value =>
      refine ⟨fun _ => Text.isDigit_of_mem_writeNat, List.forall_mem_nil _, Nat.toDigits_ne_nil,
        by simp [ofNumber], fun zero => ?_⟩
      rcases Nat.eq_zero_or_pos value.natAbs with none | positive
      · simp only [ofNumber, none]
        exact Nat.le_refl 1
      · exact absurd zero (Text.head?_writeNat_ne positive)
  | floating value =>
      rw [ofNumber]
      split
      next =>
        have zero : ∀ c ∈ ['0'], Text.isDigit c = true := List.forall_mem_singleton.mpr rfl
        exact ⟨zero, zero, by simp, by simp, fun _ => Nat.le_refl 1⟩
      next notZero =>
        have positive := Decimal.digits_shortest_pos finite (Bool.eq_false_iff.mpr notZero)
        have leading := Decimal.leading_significant positive
        exact (layout_ofDigits leading.ne_nil _ _).proper leading

/-- A number is the nearest to the literal by which it is written. -/
theorem nearest_ofNumber {number : JsonNumber} (finite : number.isFinite = true) :
    (ofNumber number).nearest = number := by
  cases number with
  | whole value =>
      simp only [ofNumber, nearest, Option.getD_none, List.append_nil, Text.digitsValue_writeNat,
        Option.isSome_none, Bool.or_self, Bool.false_eq_true, if_false, decide_eq_true_eq]
      congr 1
      omega
  | floating value =>
      rw [ofNumber]
      split
      next isZero =>
        have same := value.ofMagnitude_magnitude
        rw [beq_iff_eq.mp isZero] at same
        exact congrArg JsonNumber.floating same
      next notZero =>
        have positive := Decimal.digits_shortest_pos finite (Bool.eq_false_iff.mpr notZero)
        have leading := Decimal.leading_significant positive
        rw [(layout_ofDigits leading.ne_nil _ _).nearest_eq leading.all,
          Decimal.ofDecimal_significant positive, Decimal.ofDecimal_shortest finite]

/-- Reading what was written gives a literal that the number is nearest to, and what follows. -/
theorem read?_numberChars {number : JsonNumber} (finite : number.isFinite = true)
    {rest : List Char} (ends : endsBefore rest = true) :
    ∃ literal, read? (Json.numberChars number ++ rest) = some (literal, rest) ∧
      literal.nearest = number := by
  refine ⟨ofNumber number, ?_, nearest_ofNumber finite⟩
  rw [← chars_ofNumber, read?_chars (proper_ofNumber finite) ends]

/-- Different numbers are written differently, whatever follows them. -/
theorem numberChars_append_inj {left right : JsonNumber} (leftFinite : left.isFinite = true)
    (rightFinite : right.isFinite = true) {leftRest rightRest : List Char}
    (leftEnds : endsBefore leftRest = true) (rightEnds : endsBefore rightRest = true)
    (same : Json.numberChars left ++ leftRest = Json.numberChars right ++ rightRest) :
    left = right ∧ leftRest = rightRest := by
  obtain ⟨leftLiteral, leftRead, rfl⟩ := read?_numberChars leftFinite leftEnds
  obtain ⟨rightLiteral, rightRead, rfl⟩ := read?_numberChars rightFinite rightEnds
  rw [same, rightRead] at leftRead
  cases leftRead
  exact ⟨rfl, rfl⟩

end NumberLiteral

end ClusterQuery

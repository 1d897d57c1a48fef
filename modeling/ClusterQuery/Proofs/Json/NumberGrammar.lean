import ClusterQuery.Json.Number
import ClusterQuery.Number.Layout
import ClusterQuery.Proofs.Text.Numeral

/-!
# How number literals are spelt

A literal is an optional minus sign, digits of which a zero in front stands alone, and then, each or
neither, a point with digits and an exponent. The reader takes exactly these texts: what it takes
off the front of a text spells the literal that it returns, and wherever a number can end it stops.
-/

namespace ClusterQuery.NumberLiteral

/-! ## The grammar -/

/-- A point and the digits after it, where there are any. -/
def fractionChars : Option (List Char) → List Char
  | none => []
  | some digits => '.' :: digits

/-- A literal has digits before and after its point, and a zero in front stands alone. -/
structure Proper (literal : NumberLiteral) : Prop where
  whole : ∀ c ∈ literal.whole, Text.isDigit c = true
  fraction : ∀ c ∈ literal.fraction.getD [], Text.isDigit c = true
  whole_ne_nil : literal.whole ≠ []
  fraction_ne_nil : literal.fraction ≠ some []
  leading : literal.whole.head? = some '0' → literal.whole.length ≤ 1

/-- The sign of an exponent may be left out, and then it is a plus. -/
inductive SignSpeltBy : (negative : Bool) → List Char → Prop where
  | none : SignSpeltBy false []
  | plus : SignSpeltBy false ['+']
  | minus : SignSpeltBy true ['-']

/-- An exponent is a mark in either case, a sign and digits; it may be left out. -/
inductive ExponentSpeltBy : Option Int → List Char → Prop where
  | none : ExponentSpeltBy none []
  | written {mark : Char} {negative : Bool} {sign digits : List Char}
      (isMark : mark = 'e' ∨ mark = 'E') (isSign : SignSpeltBy negative sign)
      (areDigits : ∀ c ∈ digits, Text.isDigit c = true) (notEmpty : digits ≠ []) :
      ExponentSpeltBy
        (some (if negative then -(Text.digitsValue digits : Int) else Text.digitsValue digits))
        (mark :: (sign ++ digits))

/-- The texts that spell a literal. -/
inductive SpeltBy (literal : NumberLiteral) : List Char → Prop where
  | intro {exponent : List Char} (proper : literal.Proper)
      (isExponent : ExponentSpeltBy literal.exponent exponent) :
      SpeltBy literal
        (Binary64.signed literal.negative
          (literal.whole ++ fractionChars literal.fraction ++ exponent))

/-- A number begins with a digit or a minus sign. -/
theorem SpeltBy.exists_first {literal : NumberLiteral} {spelt : List Char}
    (isSpelt : literal.SpeltBy spelt) :
    ∃ c others, spelt = c :: others ∧ (c = '-' ∨ Text.isDigit c = true) := by
  cases isSpelt with
  | @intro exponent proper isExponent =>
      rw [Binary64.signed]
      cases literal.negative with
      | true => exact ⟨'-', _, rfl, .inl rfl⟩
      | false =>
          obtain ⟨first, more, whole⟩ := List.exists_cons_of_ne_nil proper.whole_ne_nil
          rw [whole]
          exact ⟨first, _, rfl, .inr (proper.whole first (whole ▸ List.mem_cons_self))⟩

/-! ## What is read is spelt -/

variable {text rest : List Char}

theorem spanDigits_eq {digits : List Char} (span : Text.spanDigits text = (digits, rest)) :
    text = digits ++ rest ∧ ∀ c ∈ digits, Text.isDigit c = true := by
  cases span
  exact ⟨List.takeWhile_append_dropWhile.symm, fun _ => Text.isDigit_of_mem_spanDigits⟩

theorem speltBy_of_readFraction {fraction : Option (List Char)}
    (read : readFraction text = some (fraction, rest)) :
    text = fractionChars fraction ++ rest ∧ (∀ c ∈ fraction.getD [], Text.isDigit c = true) ∧
      fraction ≠ some [] := by
  unfold readFraction at read
  split at read
  next after =>
    cases span : Text.spanDigits after with
    | mk digits others =>
        obtain ⟨rfl, areDigits⟩ := spanDigits_eq span
        simp only [span] at read
        split at read
        next => cases read
        next someDigit =>
          cases read
          exact ⟨rfl, areDigits, by simpa using someDigit⟩
  next => cases read; exact ⟨rfl, List.forall_mem_nil _, nofun⟩

theorem signSpeltBy_of_readSign {negative : Bool} (read : readSign text = (negative, rest)) :
    ∃ sign, SignSpeltBy negative sign ∧ text = sign ++ rest := by
  unfold readSign at read
  split at read
  next => cases read; exact ⟨_, .minus, rfl⟩
  next => cases read; exact ⟨_, .plus, rfl⟩
  next => cases read; exact ⟨_, .none, rfl⟩

theorem exponentSpeltBy_of_readExponent {exponent : Option Int}
    (read : readExponent text = some (exponent, rest)) :
    ∃ spelt, ExponentSpeltBy exponent spelt ∧ text = spelt ++ rest := by
  unfold readExponent at read
  split at read
  next =>
    cases read
    exact ⟨[], .none, rfl⟩
  next mark after =>
    split at read
    next isMark =>
      cases signed : readSign after with
      | mk negative unsigned =>
          cases span : Text.spanDigits unsigned with
          | mk digits others =>
              simp only [signed, span] at read
              split at read
              next => cases read
              next someDigit =>
                cases read
                obtain ⟨sign, isSign, rfl⟩ := signSpeltBy_of_readSign signed
                obtain ⟨rfl, areDigits⟩ := spanDigits_eq span
                exact ⟨_, .written isMark isSign areDigits (by simpa using someDigit), by simp⟩
    next =>
      cases read
      exact ⟨[], .none, rfl⟩

theorem speltBy_of_readUnsigned {negative : Bool} {literal : NumberLiteral}
    (read : readUnsigned negative text = some (literal, rest)) :
    literal.negative = negative ∧ literal.Proper ∧
      ∃ exponent, ExponentSpeltBy literal.exponent exponent ∧
        text = literal.whole ++ fractionChars literal.fraction ++ exponent ++ rest := by
  cases span : Text.spanDigits text with
  | mk whole afterWhole =>
      simp only [readUnsigned, span] at read
      split at read
      next => cases read
      next proper =>
        simp only [Option.bind_eq_bind, Option.bind_eq_some_iff, Option.pure_def] at read
        obtain ⟨⟨fraction, afterFraction⟩, readsFraction, ⟨exponent, others⟩, readsExponent,
          equal⟩ := read
        cases equal
        rw [Bool.not_eq_true, Bool.or_eq_false_iff, List.isEmpty_eq_false_iff,
          Bool.and_eq_false_imp, beq_iff_eq, decide_eq_false_iff_not, Nat.not_lt] at proper
        obtain ⟨rfl, wholeDigits⟩ := spanDigits_eq span
        obtain ⟨rfl, fractionDigits, someDigit⟩ := speltBy_of_readFraction readsFraction
        obtain ⟨spelt, isExponent, rfl⟩ := exponentSpeltBy_of_readExponent readsExponent
        refine ⟨rfl, ⟨wholeDigits, fractionDigits, proper.1, someDigit, proper.2⟩, spelt,
          isExponent, ?_⟩
        simp only [List.append_assoc]

/-- What is taken off a text spells the literal that is returned. -/
theorem speltBy_of_read? {literal : NumberLiteral} (read : read? text = some (literal, rest)) :
    ∃ spelt, literal.SpeltBy spelt ∧ text = spelt ++ rest := by
  unfold read? at read
  split at read
  next =>
    obtain ⟨isNegative, proper, exponent, isExponent, rfl⟩ := speltBy_of_readUnsigned read
    refine ⟨_, .intro proper isExponent, ?_⟩
    rw [isNegative]
    rfl
  next =>
    obtain ⟨isNegative, proper, exponent, isExponent, rfl⟩ := speltBy_of_readUnsigned read
    refine ⟨_, .intro proper isExponent, ?_⟩
    rw [isNegative]
    rfl

/-! ## What is spelt is read -/

/-- Whether a character may go on with a number. -/
def goesOn (c : Char) : Bool := Text.isDigit c || c == '.' || c == 'e' || c == 'E'

/-- Whether a number ends where a text begins. -/
def endsBefore (rest : List Char) : Bool := rest.head?.all fun c => !goesOn c

theorem head?_ne_of_endsBefore (ends : endsBefore rest = true) {c : Char}
    (going : goesOn c = true) : rest.head? ≠ some c := by
  intro first
  rw [endsBefore, first, Option.all_some, going] at ends
  cases ends

theorem noDigit_of_endsBefore (ends : endsBefore rest = true) :
    rest.head?.all (fun c => !Text.isDigit c) = true := by
  cases first : rest.head? with
  | none => rfl
  | some c =>
      rw [Option.all_some, Bool.not_eq_true', Bool.eq_false_iff]
      intro digit
      exact head?_ne_of_endsBefore ends (show goesOn c = true by simp [goesOn, digit]) first

theorem readSign_append {negative : Bool} {sign digits : List Char}
    (isSign : SignSpeltBy negative sign) (areDigits : ∀ c ∈ digits, Text.isDigit c = true)
    (notEmpty : digits ≠ []) :
    readSign (sign ++ (digits ++ rest)) = (negative, digits ++ rest) := by
  cases isSign with
  | plus => rfl
  | minus => rfl
  | none =>
      -- The sign is looked for in vain, as the text begins with a digit.
      obtain ⟨first, more, rfl⟩ := List.exists_cons_of_ne_nil notEmpty
      have digit := areDigits first List.mem_cons_self
      rw [List.nil_append, List.cons_append, readSign]
      · rintro others equal
        cases equal
        cases digit
      · rintro others equal
        cases equal
        cases digit

theorem readExponent_of_speltBy {exponent : Option Int} {spelt : List Char}
    (isExponent : ExponentSpeltBy exponent spelt) (ends : endsBefore rest = true) :
    readExponent (spelt ++ rest) = some (exponent, rest) := by
  cases isExponent with
  | none =>
      cases rest with
      | nil => rfl
      | cons c rest =>
          have small : c ≠ 'e' := fun equal =>
            head?_ne_of_endsBefore ends (by decide) (congrArg some equal)
          have large : c ≠ 'E' := fun equal =>
            head?_ne_of_endsBefore ends (by decide) (congrArg some equal)
          simp [readExponent, small, large]
  | @written mark negative sign digits isMark isSign areDigits notEmpty =>
      have signed : readSign (sign ++ (digits ++ rest)) = (negative, digits ++ rest) :=
        readSign_append isSign areDigits notEmpty
      have span : Text.spanDigits (digits ++ rest) = (digits, rest) :=
        Text.spanDigits_append areDigits (noDigit_of_endsBefore ends)
      simp [readExponent, isMark, signed, span, notEmpty]

theorem readFraction_fractionChars {fraction : Option (List Char)}
    (digits : ∀ c ∈ fraction.getD [], Text.isDigit c = true) (notEmpty : fraction ≠ some [])
    (noDigit : rest.head?.all (fun c => !Text.isDigit c) = true) (noPoint : rest.head? ≠ some '.') :
    readFraction (fractionChars fraction ++ rest) = some (fraction, rest) := by
  cases fraction with
  | none =>
      rw [fractionChars, List.nil_append, readFraction]
      rintro rest rfl
      exact noPoint rfl
  | some fraction =>
      have span : Text.spanDigits (fraction ++ rest) = (fraction, rest) :=
        Text.spanDigits_append digits noDigit
      have someDigit : fraction.isEmpty = false :=
        List.isEmpty_eq_false_iff.mpr fun none => notEmpty (congrArg some none)
      simp [fractionChars, readFraction, span, someDigit]

/-- What follows the fraction of a literal neither goes on with its digits nor is a point. -/
theorem ExponentSpeltBy.head?_append {exponent : Option Int} {spelt : List Char}
    (isExponent : ExponentSpeltBy exponent spelt) (ends : endsBefore rest = true) :
    (spelt ++ rest).head?.all (fun c => !Text.isDigit c) = true ∧
      (spelt ++ rest).head? ≠ some '.' := by
  cases isExponent with
  | none => exact ⟨noDigit_of_endsBefore ends, head?_ne_of_endsBefore ends (by decide)⟩
  | written isMark => rcases isMark with rfl | rfl <;> exact ⟨rfl, by simp⟩

theorem readUnsigned_append {literal : NumberLiteral} (proper : literal.Proper)
    {exponent : List Char} (isExponent : ExponentSpeltBy literal.exponent exponent)
    (ends : endsBefore rest = true) :
    readUnsigned literal.negative
        (literal.whole ++ (fractionChars literal.fraction ++ (exponent ++ rest))) =
      some (literal, rest) := by
  obtain ⟨noDigit, noPoint⟩ := isExponent.head?_append ends
  have span : Text.spanDigits
      (literal.whole ++ (fractionChars literal.fraction ++ (exponent ++ rest))) =
        (literal.whole, fractionChars literal.fraction ++ (exponent ++ rest)) := by
    apply Text.spanDigits_append proper.whole
    cases literal.fraction with
    | none => exact noDigit
    | some fraction => rfl
  have someDigit : (literal.whole.isEmpty ||
      (literal.whole.head? == some '0' && decide (1 < literal.whole.length))) = false := by
    rw [Bool.or_eq_false_iff, List.isEmpty_eq_false_iff, Bool.and_eq_false_imp, beq_iff_eq,
      decide_eq_false_iff_not, Nat.not_lt]
    exact ⟨proper.whole_ne_nil, proper.leading⟩
  have readsFraction := readFraction_fractionChars proper.fraction proper.fraction_ne_nil noDigit
    noPoint
  have readsExponent := readExponent_of_speltBy isExponent ends
  simp only [readUnsigned, span, someDigit, Bool.false_eq_true, if_false, readsFraction,
    Option.bind_eq_bind, Option.bind_some, readsExponent]
  rfl

/-- A text that spells a literal is read as that literal, up to where it ends. -/
theorem read?_of_speltBy {literal : NumberLiteral} {spelt : List Char}
    (isSpelt : literal.SpeltBy spelt) (ends : endsBefore rest = true) :
    read? (spelt ++ rest) = some (literal, rest) := by
  cases isSpelt with
  | @intro exponent proper isExponent =>
      have unsigned := readUnsigned_append proper isExponent ends
      rw [Binary64.signed]
      cases negative : literal.negative with
      | true =>
          rw [negative] at unsigned
          simpa only [if_true, List.cons_append, List.append_assoc, read?] using unsigned
      | false =>
          rw [negative] at unsigned
          have noMinus : ∀ more,
              literal.whole ++ (fractionChars literal.fraction ++ (exponent ++ rest)) ≠
                '-' :: more := by
            obtain ⟨first, more, whole⟩ := List.exists_cons_of_ne_nil proper.whole_ne_nil
            rintro _ equal
            rw [whole] at equal
            cases (List.cons.inj equal).1
            exact absurd (proper.whole '-' (whole ▸ List.mem_cons_self)) (by decide)
          simp only [Bool.false_eq_true, if_false, List.append_assoc]
          rw [read?]
          · exact unsigned
          · exact noMinus

/-! ## Digits only -/

/-- A literal of digits only, and the number that they are. -/
structure IsDigits (literal : NumberLiteral) (value : Nat) : Prop where
  unsigned : literal.negative = false
  noFraction : literal.fraction = none
  noExponent : literal.exponent = none
  value : Text.digitsValue literal.whole = value

theorem whole?_eq_natCast_iff {literal : NumberLiteral} {value : Nat}
    (small : value ≤ Text.maxNat64) :
    literal.whole? = some (value : Int) ↔ literal.IsDigits value := by
  obtain ⟨negative, whole, fraction, exponent⟩ := literal
  constructor
  · intro read
    simp only [whole?] at read
    split at read
    next => cases read
    next plain =>
      rw [Bool.or_eq_true, not_or, Option.not_isSome_iff_eq_none,
        Option.not_isSome_iff_eq_none] at plain
      split at read
      next =>
        -- A minus sign makes the number less than zero.
        split at read
        next =>
          have below := Option.some.inj read
          omega
        next => cases read
      next isPositive =>
        split at read
        next =>
          have equal := Option.some.inj read
          exact ⟨by simpa using isPositive, plain.1, plain.2, Int.ofNat.inj equal⟩
        next => cases read
  · rintro ⟨unsigned, noFraction, noExponent, isValue⟩
    dsimp only at unsigned noFraction noExponent isValue
    subst unsigned noFraction noExponent isValue
    exact if_pos small

end ClusterQuery.NumberLiteral

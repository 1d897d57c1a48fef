import ClusterQuery.Text.Numeral
import Mathlib.Algebra.Group.Nat.Defs
import Mathlib.Data.List.Basic

/-!
# Numbers through their text

What is written in base ten is read back. Digits are read from the left, so a number is bounded by
what it starts with, and a range is left at the first digit that leaves it.
-/

namespace ClusterQuery.Text

theorem isDigit_eq (c : Char) : isDigit c = c.isDigit := by
  have bounds : ('0' ≤ c ∧ c ≤ '9') ↔ (48 ≤ c.val ∧ c.val ≤ 57) := Iff.rfl
  by_cases digit : '0' ≤ c ∧ c ≤ '9'
  · have found : c.isDigit = true := by simpa [Char.isDigit] using bounds.mp digit
    rw [found, isDigit, digitValue?, if_pos digit]
    rfl
  · have found : c.isDigit = false := by
      rw [Bool.eq_false_iff]
      intro isDigit
      exact digit (bounds.mpr (by simpa [Char.isDigit] using isDigit))
    rw [found, isDigit, digitValue?, if_neg digit]
    rfl

theorem bounds_of_isDigit {c : Char} (digit : isDigit c = true) :
    '0'.toNat ≤ c.toNat ∧ c.toNat ≤ '9'.toNat := by
  rw [isDigit, digitValue?] at digit
  split at digit
  next inRange => exact inRange
  next => cases digit

theorem digitValue?_of_isDigit {c : Char} (digit : isDigit c = true) :
    digitValue? c = some (c.toNat - '0'.toNat) :=
  if_pos (bounds_of_isDigit digit)

theorem digitValue?_eq_none {c : Char} (notDigit : isDigit c = false) : digitValue? c = none := by
  simpa [isDigit] using notDigit

theorem isDigit_of_mem_writeNat {value : Nat} {c : Char} (member : c ∈ writeNat value) :
    isDigit c = true := by
  rw [isDigit_eq]
  exact Nat.isDigit_of_mem_toDigits (by decide) (by decide) member

theorem isDigit_of_mem_spanDigits {text : List Char} {c : Char}
    (member : c ∈ (spanDigits text).1) : isDigit c = true :=
  List.all_eq_true.mp List.all_takeWhile c member

/-- A run of digits ends where no digit follows. -/
theorem spanDigits_append {digits rest : List Char} (all : ∀ c ∈ digits, isDigit c = true)
    (ends : rest.head?.all (fun c => !isDigit c) = true) :
    spanDigits (digits ++ rest) = (digits, rest) := by
  rw [spanDigits, List.takeWhile_append_of_pos all, List.dropWhile_append_of_pos all]
  cases rest with
  | nil => simp
  | cons next rest =>
      have notDigit : ¬isDigit next = true := by simpa using ends
      rw [List.takeWhile_cons_of_neg notDigit, List.dropWhile_cons_of_neg notDigit,
        List.append_nil]

theorem digitsValue_eq {digits : List Char} (all : ∀ c ∈ digits, isDigit c = true) :
    digitsValue digits = Nat.ofDigitChars 10 digits 0 := by
  rw [digitsValue, Nat.ofDigitChars]
  refine List.foldl_ext _ _ _ fun value c member => ?_
  rw [digitValue?_of_isDigit (all c member)]
  rfl

theorem isDigit_of_mem_zeros {count : Nat} {c : Char} (member : c ∈ List.replicate count '0') :
    isDigit c = true := by
  rw [List.eq_of_mem_replicate member]
  rfl

/-- Zeros in front do not count. -/
theorem digitsValue_zeros_append {digits : List Char} (all : ∀ c ∈ digits, isDigit c = true)
    (count : Nat) : digitsValue (List.replicate count '0' ++ digits) = digitsValue digits := by
  have both : ∀ c ∈ List.replicate count '0' ++ digits, isDigit c = true :=
    List.forall_mem_append.mpr ⟨fun _ => isDigit_of_mem_zeros, all⟩
  rw [digitsValue_eq both, digitsValue_eq all, Nat.ofDigitChars_append,
    Nat.ofDigitChars_replicate_zero, Nat.mul_zero]

/-- Each zero at the end multiplies by ten. -/
theorem digitsValue_append_zeros {digits : List Char} (all : ∀ c ∈ digits, isDigit c = true)
    (count : Nat) :
    digitsValue (digits ++ List.replicate count '0') = digitsValue digits * 10 ^ count := by
  have both : ∀ c ∈ digits ++ List.replicate count '0', isDigit c = true :=
    List.forall_mem_append.mpr ⟨all, fun _ => isDigit_of_mem_zeros⟩
  rw [digitsValue_eq both, digitsValue_eq all, Nat.ofDigitChars_append,
    Nat.ofDigitChars_replicate_zero, Nat.mul_comm]

theorem digitsValue_writeNat (value : Nat) : digitsValue (writeNat value) = value := by
  rw [digitsValue_eq fun _ member => isDigit_of_mem_writeNat member]
  exact Nat.ofDigitChars_ten_toDigits

/-- A number has at least as many digits as it needs. -/
theorem digitsValue_lt {digits : List Char} (all : ∀ c ∈ digits, isDigit c = true) :
    digitsValue digits < 10 ^ digits.length := by
  rw [digitsValue_eq all]
  induction digits with
  | nil => exact Nat.zero_lt_one
  | cons c digits ih =>
      rw [List.forall_mem_cons] at all
      have first : c.toNat - '0'.toNat ≤ 9 := Nat.sub_le_sub_right (bounds_of_isDigit all.1).2 _
      have rest := ih all.2
      have scaled := Nat.mul_le_mul_left (10 ^ digits.length) first
      rw [Nat.ofDigitChars_cons, Nat.ofDigitChars_eq_ofDigitChars_zero, List.length_cons,
        Nat.pow_succ, Nat.mul_zero, Nat.zero_add]
      omega

/-- A positive number is written without zeros in front. -/
theorem head?_writeNat_ne {value : Nat} (positive : 0 < value) :
    (writeNat value).head? ≠ some '0' := by
  intro leading
  obtain ⟨rest, written⟩ := List.head?_eq_some_iff.mp leading
  have all : ∀ c ∈ rest, isDigit c = true := fun c member =>
    isDigit_of_mem_writeNat (written ▸ List.mem_cons_of_mem _ member)
  have small : value < 10 ^ rest.length := by
    have same := digitsValue_zeros_append all 1
    rw [List.replicate_one, List.singleton_append, ← written, digitsValue_writeNat] at same
    exact same ▸ digitsValue_lt all
  cases rest with
  | nil => exact absurd small (Nat.not_lt_of_le positive)
  | cons next rest =>
      have short := (Nat.length_toDigits_le_iff (by decide) (Nat.succ_pos rest.length)).mpr small
      rw [← writeNat, written] at short
      exact absurd short (Nat.not_succ_le_self _)

/-! ## Bounded numbers -/

theorem le_ofDigitChars (digits : List Char) (value : Nat) :
    value ≤ Nat.ofDigitChars 10 digits value := by
  induction digits generalizing value with
  | nil => exact Nat.le_of_eq Nat.ofDigitChars_nil.symm
  | cons c digits ih =>
      rw [Nat.ofDigitChars_cons]
      exact Nat.le_trans (by omega) (ih _)

/-- Digits of a number within the bound are read as that number. -/
theorem readDigits_eq_ok {bound : Nat} {digits : List Char} {value : Nat}
    (all : ∀ c ∈ digits, isDigit c = true) (inRange : Nat.ofDigitChars 10 digits value ≤ bound) :
    readDigits bound value digits = .ok (Nat.ofDigitChars 10 digits value) := by
  induction digits generalizing value with
  | nil => rfl
  | cons c digits ih =>
      rw [List.forall_mem_cons] at all
      rw [Nat.ofDigitChars_cons] at inRange ⊢
      have start := le_ofDigitChars digits (10 * value + (c.toNat - '0'.toNat))
      rw [readDigits, digitValue?_of_isDigit all.1]
      simp only [if_pos (Nat.le_trans start inRange)]
      exact ih all.2 inRange

/-- A character that is no digit spoils a number. -/
theorem readDigits_eq_error {text : List Char} {c : Char} (member : c ∈ text)
    (notDigit : isDigit c = false) (bound value : Nat) :
    ∃ fault, readDigits bound value text = .error fault := by
  induction text generalizing value with
  | nil => exact absurd member List.not_mem_nil
  | cons first rest ih =>
      rw [readDigits]
      rcases List.mem_cons.mp member with rfl | later
      · rw [digitValue?_eq_none notDigit]
        exact ⟨.invalidDigit, rfl⟩
      · cases digitValue? first with
        | none => exact ⟨.invalidDigit, rfl⟩
        | some digit =>
            dsimp only
            split
            next => exact ih later _
            next => exact ⟨.tooLarge, rfl⟩

/-- Only numbers within the bound are read. -/
theorem le_of_readDigits_eq_ok {bound : Nat} {text : List Char} {start value : Nat}
    (startInRange : start ≤ bound) (success : readDigits bound start text = .ok value) :
    value ≤ bound := by
  induction text generalizing start with
  | nil =>
      cases success
      exact startInRange
  | cons first rest ih =>
      rw [readDigits] at success
      split at success
      next => cases success
      next digit =>
        split at success
        next inRange => exact ih inRange success
        next => cases success

/-! ## Signed numbers -/

theorem writeNat_eq_cons (value : Nat) :
    ∃ first rest, writeNat value = first :: rest ∧ isDigit first = true := by
  obtain ⟨first, rest, equal⟩ := List.exists_cons_of_ne_nil
    (show writeNat value ≠ [] from Nat.toDigits_ne_nil)
  exact ⟨first, rest, equal, isDigit_of_mem_writeNat (equal ▸ List.mem_cons_self)⟩

/-- The text of a number within the bound is read as that number. -/
theorem readDigits_writeNat {bound value : Nat} (inRange : value ≤ bound) :
    readDigits bound 0 (writeNat value) = .ok value := by
  have same : Nat.ofDigitChars 10 (writeNat value) 0 = value := Nat.ofDigitChars_ten_toDigits
  rw [readDigits_eq_ok (fun _ member => isDigit_of_mem_writeNat member) (by rwa [same]), same]

theorem readNat_of_isDigit {bound : Nat} {first : Char} {rest : List Char}
    (digit : isDigit first = true) :
    readNat bound (first :: rest) = readDigits bound 0 (first :: rest) := by
  rw [readNat]
  · exact nofun
  · intro equal
    cases equal
    cases digit
  · intro digits equal
    cases equal
    cases digit

theorem readNat_writeNat {bound value : Nat} (inRange : value ≤ bound) :
    readNat bound (writeNat value) = .ok value := by
  obtain ⟨first, rest, equal, digit⟩ := writeNat_eq_cons value
  rw [equal, readNat_of_isDigit digit, ← equal, readDigits_writeNat inRange]

theorem readInt64_of_isDigit {first : Char} {rest : List Char} (digit : isDigit first = true) :
    readInt64 (first :: rest) =
      (readNat maxInt64 (first :: rest)).toOption.map fun value : Nat => (value : Int) := by
  rw [readInt64]
  · intro equal
    cases equal
    cases digit
  · intro digits equal
    cases equal
    cases digit

theorem readInt64_of_minus {first : Char} {rest : List Char} :
    readInt64 ('-' :: first :: rest) =
      (readDigits (maxInt64 + 1) 0 (first :: rest)).toOption.map
        fun value : Nat => -(value : Int) := by
  rw [readInt64]
  exact nofun

/-- The text of a 64-bit number is read as that number. -/
theorem readInt64_writeInt {value : Int} (inRange : isInt64 value = true) :
    readInt64 (writeInt value) = some value := by
  simp only [isInt64, Bool.and_eq_true, decide_eq_true_eq] at inRange
  cases value with
  | ofNat value =>
      obtain ⟨first, rest, equal, digit⟩ := writeNat_eq_cons value
      have bound : value ≤ maxInt64 := by
        simp only [maxInt64, Int.ofNat_eq_natCast] at inRange ⊢
        omega
      rw [writeInt, equal, readInt64_of_isDigit digit, ← equal, readNat_writeNat bound]
      rfl
  | negSucc value =>
      obtain ⟨first, rest, equal, _⟩ := writeNat_eq_cons (value + 1)
      have bound : value + 1 ≤ maxInt64 + 1 := by omega
      rw [writeInt, equal, readInt64_of_minus, ← equal, readDigits_writeNat bound]
      rfl

theorem le_of_readNat_eq_ok {bound : Nat} {text : List Char} {value : Nat}
    (success : readNat bound text = .ok value) : value ≤ bound := by
  unfold readNat at success
  split at success
  next => cases success
  next => cases success
  next => exact le_of_readDigits_eq_ok (Nat.zero_le bound) success
  next => exact le_of_readDigits_eq_ok (Nat.zero_le bound) success

theorem eq_ok_of_toOption_eq_some {ε α : Type} {result : Except ε α} {value : α}
    (success : result.toOption = some value) : result = .ok value := by
  cases result with
  | error error => cases success
  | ok other => exact congrArg Except.ok (Option.some.inj success)

/-- Only 64-bit numbers are read. -/
theorem isInt64_of_readInt64 {text : List Char} {value : Int}
    (success : readInt64 text = some value) : isInt64 value = true := by
  simp only [isInt64, Bool.and_eq_true, decide_eq_true_eq]
  unfold readInt64 at success
  split at success
  next => cases success
  next =>
    obtain ⟨size, read, rfl⟩ := Option.map_eq_some_iff.mp success
    have bound := le_of_readDigits_eq_ok (Nat.zero_le _) (eq_ok_of_toOption_eq_some read)
    omega
  next =>
    obtain ⟨size, read, rfl⟩ := Option.map_eq_some_iff.mp success
    have bound := le_of_readNat_eq_ok (eq_ok_of_toOption_eq_some read)
    omega

/-- A character after the first that is no digit spoils a number. -/
theorem readInt64_eq_none {first : Char} {rest : List Char} {c : Char} (member : c ∈ rest)
    (notDigit : isDigit c = false) : readInt64 (first :: rest) = none := by
  have spoilt (bound : Nat) {text : List Char} (member : c ∈ text) :
      (readDigits bound 0 text).toOption = none := by
    obtain ⟨fault, equal⟩ := readDigits_eq_error member notDigit bound 0
    rw [equal]
    rfl
  have later : c ∈ first :: rest := List.mem_cons_of_mem first member
  unfold readInt64
  split
  next => rfl
  next equal =>
    cases equal
    rw [spoilt _ member]
    rfl
  next =>
    unfold readNat
    split
    next equal => cases equal
    next => rfl
    next equal =>
      cases equal
      rw [spoilt _ member]
      rfl
    next =>
      rw [spoilt _ later]
      rfl

/-! ## Numbers of fixed width -/

theorem isDigit_of_mem_decimalPadded {width value : Nat} {c : Char}
    (member : c ∈ decimalPadded width value) : isDigit c = true := by
  rw [decimalPadded, padZeros, List.mem_append] at member
  rcases member with zero | digit
  · exact isDigit_of_mem_zeros zero
  · exact isDigit_of_mem_writeNat digit

theorem decimalPadded_ne_nil (width value : Nat) : decimalPadded width value ≠ [] :=
  List.append_ne_nil_of_right_ne_nil _ Nat.toDigits_ne_nil

theorem length_decimalPadded {width value : Nat} (positive : 0 < width)
    (fits : value < 10 ^ width) : (decimalPadded width value).length = width := by
  have short := (Nat.length_toDigits_le_iff (by decide) positive).mpr fits
  rw [decimalPadded, padZeros, List.length_append, List.length_replicate]
  exact Nat.sub_add_cancel short

theorem digitsValue_decimalPadded (width value : Nat) :
    digitsValue (decimalPadded width value) = value := by
  have digits : ∀ c ∈ writeNat value, isDigit c = true := fun _ => isDigit_of_mem_writeNat
  exact (digitsValue_zeros_append digits _).trans (digitsValue_writeNat value)

end ClusterQuery.Text

import ClusterQuery.Number.Shortest
import Mathlib.Algebra.Order.Field.Rat
import Mathlib.Data.Int.Log
import Mathlib.Data.Rat.Floor
import Mathlib.Tactic.FieldSimp
import Mathlib.Tactic.Positivity

/-!
# Rounding to floating point numbers

Larger quotients are rounded to larger numbers, so what a quotient is rounded to depends on the
quotient alone, and not on the two numbers that it is written with. A finite number is what its own
significand and exponent are rounded to. So the decimal that the search for the shortest one ends
with denotes the number it was made from, also where no grid has a candidate and the number is taken
as it is.
-/

namespace ClusterQuery.Binary64

/-! ## The grid of a quotient -/

theorem zpow_eq_div (exponent : ℤ) :
    (2 : ℚ) ^ exponent = 2 ^ exponent.toNat / 2 ^ (-exponent).toNat := by
  rw [← zpow_natCast, ← zpow_natCast, ← zpow_sub₀ two_ne_zero]
  congr 1
  omega

theorem zpow_add_eq_mul (bits : ℕ) (exponent : ℤ) :
    ((2 : ℕ) : ℚ) ^ ((bits : ℤ) + exponent) = 2 ^ bits * 2 ^ exponent := by
  rw [Nat.cast_ofNat, zpow_add₀ two_ne_zero, zpow_natCast]

/-- The powers of two around a number determine its logarithm. -/
theorem log_eq {number : ℚ} (positive : 0 < number) {exponent : ℤ}
    (atLeast : (2 : ℚ) ^ exponent ≤ number) (less : number < (2 : ℚ) ^ (exponent + 1)) :
    Int.log 2 number = exponent := by
  have lower := (Int.zpow_le_iff_le_log Nat.one_lt_two positive).mp (by exact_mod_cast atLeast)
  have upper := (Int.lt_zpow_iff_log_lt Nat.one_lt_two positive).mp (by exact_mod_cast less)
  omega

theorem zpow_le_quotient_iff {numerator denominator : ℕ} (positive : 0 < denominator)
    (exponent : ℤ) :
    (2 : ℚ) ^ exponent ≤ numerator / denominator ↔
      denominator * Nat.pow 2 exponent.toNat ≤ numerator * Nat.pow 2 (-exponent).toNat := by
  have positiveCast : (0 : ℚ) < denominator := Nat.cast_pos.mpr positive
  rw [zpow_eq_div, div_le_div_iff₀ (by positivity) positiveCast, mul_comm]
  simp only [Nat.pow_eq]
  exact_mod_cast Iff.rfl

/-- A quotient lies between the powers of two that the lengths of its parts tell. -/
theorem quotient_bounds {numerator denominator : ℕ} (numeratorPositive : 0 < numerator)
    (denominatorPositive : 0 < denominator) :
    (2 : ℚ) ^ ((numerator.log2 : ℤ) - denominator.log2 - 1) ≤ numerator / denominator ∧
      (numerator / denominator : ℚ) < 2 ^ ((numerator.log2 : ℤ) - denominator.log2 + 1) := by
  have numeratorLower : (2 : ℚ) ^ numerator.log2 ≤ numerator := by
    exact_mod_cast Nat.log2_self_le numeratorPositive.ne'
  have numeratorUpper : (numerator : ℚ) < 2 ^ (numerator.log2 + 1) := by
    exact_mod_cast Nat.lt_log2_self
  have denominatorLower : (2 : ℚ) ^ denominator.log2 ≤ denominator := by
    exact_mod_cast Nat.log2_self_le denominatorPositive.ne'
  have denominatorUpper : (denominator : ℚ) ≤ 2 ^ (denominator.log2 + 1) := by
    exact_mod_cast Nat.le_of_lt Nat.lt_log2_self
  have positive : (0 : ℚ) < denominator := Nat.cast_pos.mpr denominatorPositive
  constructor
  · rw [sub_sub, zpow_sub₀ two_ne_zero, ← Nat.cast_succ, zpow_natCast, zpow_natCast]
    exact div_le_div₀ (Nat.cast_nonneg _) numeratorLower positive denominatorUpper
  · rw [sub_add_eq_add_sub, zpow_sub₀ two_ne_zero, ← Nat.cast_succ, zpow_natCast, zpow_natCast]
    exact div_lt_div₀ numeratorUpper denominatorLower (by positivity) (by positivity)

theorem gridExponent_eq {numerator denominator : ℕ} (numeratorPositive : 0 < numerator)
    (denominatorPositive : 0 < denominator) :
    gridExponent numerator denominator =
      max (-1074) (Int.log 2 (numerator / denominator : ℚ) - 52) := by
  have positive : (0 : ℚ) < numerator / denominator := by positivity
  obtain ⟨lower, upper⟩ := quotient_bounds numeratorPositive denominatorPositive
  simp only [gridExponent]
  split
  next reached =>
    rw [log_eq positive ((zpow_le_quotient_iff denominatorPositive _).mpr reached) upper]
  next missed =>
    have below := not_le.mp (mt (zpow_le_quotient_iff denominatorPositive _).mp missed)
    rw [log_eq positive lower (by rwa [sub_add_cancel])]

theorem roundQuotient_mul (numerator denominator : ℕ) {factor : ℕ} (positive : 0 < factor) :
    roundQuotient (numerator * factor) (denominator * factor) =
      roundQuotient numerator denominator := by
  have twice : 2 * (numerator % denominator * factor) = 2 * (numerator % denominator) * factor :=
    (Nat.mul_assoc _ _ _).symm
  simp only [roundQuotient, Nat.mul_div_mul_right _ _ positive, Nat.mul_mod_mul_right, twice,
    Nat.mul_lt_mul_right positive, Nat.mul_left_inj positive.ne']

theorem roundQuotient_self (value : ℕ) {factor : ℕ} (positive : 0 < factor) :
    roundQuotient (value * factor) factor = value := by
  have unit : roundQuotient value 1 = value := by
    simp [roundQuotient, Nat.mod_one]
  have scaled := roundQuotient_mul value 1 positive
  rwa [Nat.one_mul, unit] at scaled

/-! ## Larger quotients -/

theorem div_le_roundQuotient (numerator denominator : ℕ) :
    numerator / denominator ≤ roundQuotient numerator denominator := by
  simp only [roundQuotient]
  split <;> omega

theorem roundQuotient_le (numerator denominator : ℕ) :
    roundQuotient numerator denominator ≤ numerator / denominator + 1 := by
  simp only [roundQuotient]
  split <;> omega

theorem roundQuotient_le_roundQuotient {numerator larger : ℕ} (atMost : numerator ≤ larger)
    (denominator : ℕ) :
    roundQuotient numerator denominator ≤ roundQuotient larger denominator := by
  rcases Nat.lt_or_eq_of_le (Nat.div_le_div_right atMost : numerator / denominator ≤ _) with
    below | same
  · calc roundQuotient numerator denominator
        ≤ numerator / denominator + 1 := roundQuotient_le _ _
      _ ≤ larger / denominator := below
      _ ≤ roundQuotient larger denominator := div_le_roundQuotient _ _
  · -- With the same whole part, the larger number leaves the larger rest.
    have rest : numerator % denominator ≤ larger % denominator := by
      have one := Nat.div_add_mod numerator denominator
      have other := Nat.div_add_mod larger denominator
      rw [same] at one
      omega
    simp only [roundQuotient, same]
    split <;> split <;> omega

/-- Larger quotients are rounded to larger whole numbers. -/
theorem roundQuotient_mono {numerator denominator otherNumerator otherDenominator : ℕ}
    (positive : 0 < denominator) (otherPositive : 0 < otherDenominator)
    (atMost : numerator * otherDenominator ≤ otherNumerator * denominator) :
    roundQuotient numerator denominator ≤ roundQuotient otherNumerator otherDenominator := by
  rw [← roundQuotient_mul numerator denominator otherPositive,
    ← roundQuotient_mul otherNumerator otherDenominator positive, Nat.mul_comm otherDenominator]
  exact roundQuotient_le_roundQuotient atMost _

theorem le_gridExponent (numerator denominator : ℕ) :
    -1074 ≤ gridExponent numerator denominator := le_max_left _ _

theorem quotient_onGrid (numerator denominator : ℕ) (grid : ℤ) :
    ((numerator * Nat.pow 2 (-grid).toNat : ℕ) : ℚ) / (denominator * Nat.pow 2 grid.toNat : ℕ) =
      numerator / denominator / 2 ^ grid := by
  rw [zpow_eq_div]
  simp only [Nat.pow_eq, Nat.cast_mul, Nat.cast_pow, Nat.cast_ofNat]
  field_simp

/-- What a quotient comes to on its grid has at most 53 bits, and no fewer unless the grid is the
finest one. -/
theorem bounds_onGrid {numerator denominator : ℕ} (numeratorPositive : 0 < numerator)
    (denominatorPositive : 0 < denominator) :
    let grid := gridExponent numerator denominator
    let scaled := roundQuotient (numerator * Nat.pow 2 (-grid).toNat)
      (denominator * Nat.pow 2 grid.toNat)
    scaled ≤ 2 ^ 53 ∧ (grid = -1074 ∨ 2 ^ 52 ≤ scaled) := by
  intro grid scaled
  have isGrid : grid = max (-1074) (Int.log 2 (numerator / denominator : ℚ) - 52) :=
    gridExponent_eq numeratorPositive denominatorPositive
  have positive : (0 : ℚ) < numerator / denominator := by positivity
  have divisorPositive : 0 < denominator * Nat.pow 2 grid.toNat :=
    Nat.mul_pos denominatorPositive (Nat.pow_pos Nat.two_pos)
  have onGrid := quotient_onGrid numerator denominator grid
  have unit : (0 : ℚ) < 2 ^ grid := zpow_pos two_pos _
  have divisorCast : (0 : ℚ) < (denominator * Nat.pow 2 grid.toNat : ℕ) :=
    Nat.cast_pos.mpr divisorPositive
  constructor
  · have below : (numerator / denominator : ℚ) < ((2 : ℕ) : ℚ) ^ ((53 : ℕ) + grid) :=
      (Int.lt_zpow_iff_log_lt Nat.one_lt_two positive).mpr (by omega)
    rw [zpow_add_eq_mul, ← div_lt_iff₀ unit, ← onGrid, div_lt_iff₀ divisorCast] at below
    have product : numerator * Nat.pow 2 (-grid).toNat <
        2 ^ 53 * (denominator * Nat.pow 2 grid.toNat) := by exact_mod_cast below
    rw [Nat.mul_comm (2 ^ 53)] at product
    exact Nat.le_trans (roundQuotient_le _ _) (Nat.div_lt_of_lt_mul product)
  · by_cases finest : grid = -1074
    · exact .inl finest
    · right
      have above : ((2 : ℕ) : ℚ) ^ ((52 : ℕ) + grid) ≤ numerator / denominator :=
        (Int.zpow_le_iff_le_log Nat.one_lt_two positive).mpr (by omega)
      rw [zpow_add_eq_mul, ← le_div_iff₀ unit, ← onGrid, le_div_iff₀ divisorCast] at above
      refine Nat.le_trans ?_ (div_le_roundQuotient _ _)
      rw [Nat.le_div_iff_mul_le divisorPositive]
      exact_mod_cast above

/-- Larger quotients are rounded to larger magnitudes. -/
theorem nearestMagnitude_mono {numerator denominator otherNumerator otherDenominator : ℕ}
    (positive : 0 < denominator) (otherPositive : 0 < otherDenominator)
    (atMost : numerator * otherDenominator ≤ otherNumerator * denominator) :
    nearestMagnitude numerator denominator ≤
      nearestMagnitude otherNumerator otherDenominator := by
  rcases Nat.eq_zero_or_pos numerator with rfl | numeratorPositive
  · rw [nearestMagnitude, if_pos rfl]
    exact Nat.zero_le _
  · have otherNumeratorPositive : 0 < otherNumerator := by
      apply Nat.pos_of_ne_zero
      rintro rfl
      rw [Nat.zero_mul] at atMost
      have some := Nat.mul_pos numeratorPositive otherPositive
      omega
    have quotientPositive : (0 : ℚ) < numerator / denominator := by positivity
    have quotients : (numerator / denominator : ℚ) ≤ otherNumerator / otherDenominator := by
      rw [div_le_div_iff₀ (Nat.cast_pos.mpr positive) (Nat.cast_pos.mpr otherPositive)]
      exact_mod_cast atMost
    have grids : gridExponent numerator denominator ≤
        gridExponent otherNumerator otherDenominator := by
      rw [gridExponent_eq numeratorPositive positive,
        gridExponent_eq otherNumeratorPositive otherPositive]
      have logs := Int.log_mono_right (b := 2) quotientPositive quotients
      omega
    have least := le_gridExponent numerator denominator
    obtain ⟨scaledLe, -⟩ := bounds_onGrid numeratorPositive positive
    obtain ⟨-, full⟩ := bounds_onGrid otherNumeratorPositive otherPositive
    simp only [nearestMagnitude, if_neg numeratorPositive.ne', if_neg otherNumeratorPositive.ne']
    apply min_le_min_left
    rcases grids.eq_or_lt with same | finer
    · rw [same]
      apply Nat.add_le_add_left
      apply roundQuotient_mono
      · exact Nat.mul_pos positive (Nat.pow_pos Nat.two_pos)
      · exact Nat.mul_pos otherPositive (Nat.pow_pos Nat.two_pos)
      · rw [Nat.mul_mul_mul_comm, Nat.mul_mul_mul_comm otherNumerator]
        exact Nat.mul_le_mul_right _ atMost
    · have next : (gridExponent numerator denominator + 1074).toNat + 1 ≤
          (gridExponent otherNumerator otherDenominator + 1074).toNat := by omega
      have enough := full.resolve_left (by omega)
      have weight := Nat.mul_le_mul_right (Nat.pow 2 52) next
      simp only [Nat.pow_eq] at weight scaledLe enough ⊢
      omega

/-- Equal quotients are rounded to the same magnitude. -/
theorem nearestMagnitude_congr {numerator denominator otherNumerator otherDenominator : ℕ}
    (positive : 0 < denominator) (otherPositive : 0 < otherDenominator)
    (same : numerator * otherDenominator = otherNumerator * denominator) :
    nearestMagnitude numerator denominator = nearestMagnitude otherNumerator otherDenominator :=
  Nat.le_antisymm (nearestMagnitude_mono positive otherPositive same.le)
    (nearestMagnitude_mono otherPositive positive same.ge)

/-! ## Finite numbers -/

def isFinite (x : Binary64) : Bool := x.magnitude < infiniteMagnitude

variable {x : Binary64}

theorem magnitude_lt (x : Binary64) : x.magnitude < 2 ^ 63 := Nat.mod_lt _ (by decide)

theorem toNat_ofMagnitude {magnitude : ℕ} (inRange : magnitude < 2 ^ 63) (negative : Bool) :
    (ofMagnitude negative magnitude).bits.toNat =
      (if negative then 2 ^ 63 else 0) + magnitude := by
  simp only [ofMagnitude, UInt64.toNat_ofNat', Nat.pow_eq]
  apply Nat.mod_eq_of_lt
  split <;> omega

theorem magnitude_ofMagnitude {magnitude : ℕ} (inRange : magnitude < 2 ^ 63) (negative : Bool) :
    (ofMagnitude negative magnitude).magnitude = magnitude := by
  rw [Binary64.magnitude, toNat_ofMagnitude inRange]
  simp only [Nat.pow_eq]
  split <;> omega

/-- Sign and magnitude are all that there is to a number. -/
theorem ofMagnitude_magnitude (x : Binary64) : ofMagnitude x.isNegative x.magnitude = x := by
  obtain ⟨bits⟩ := x
  have bound := bits.toNat_lt
  have sameBits : (ofMagnitude (isNegative ⟨bits⟩) (magnitude ⟨bits⟩)).bits.toNat = bits.toNat := by
    rw [toNat_ofMagnitude (magnitude_lt _), isNegative, magnitude]
    simp only [Nat.pow_eq, decide_eq_true_eq]
    split <;> omega
  exact congrArg Binary64.mk (UInt64.toNat_inj.mp sameBits)

theorem significand_lt (x : Binary64) : x.significand < 2 ^ 53 := by
  simp only [significand, Nat.pow_eq]
  split <;> omega

/-- A number is so small that its exponent is the least one, or its significand has all bits. -/
theorem exponent_eq_or_le_significand (x : Binary64) :
    x.exponent = -1074 ∨ -1074 ≤ x.exponent ∧ 2 ^ 52 ≤ x.significand := by
  simp only [exponent, significand, Nat.pow_eq]
  split <;> omega

theorem magnitude_eq (x : Binary64) :
    (x.exponent + 1074).toNat * Nat.pow 2 52 + x.significand = x.magnitude := by
  simp only [exponent, significand, Nat.pow_eq]
  split <;> omega

theorem denominator_pos (x : Binary64) : 0 < x.denominator := Nat.pow_pos Nat.two_pos

theorem quotient_eq (x : Binary64) :
    (x.numerator / x.denominator : ℚ) = x.significand * 2 ^ x.exponent := by
  simp only [numerator, denominator, Nat.pow_eq, zpow_eq_div x.exponent, Nat.cast_mul, Nat.cast_pow,
    Nat.cast_ofNat, mul_div_assoc]

/-- The grid on which a number is rounded is its own. -/
theorem gridExponent_self (positive : 0 < x.significand) :
    gridExponent x.numerator x.denominator = x.exponent := by
  have numeratorPositive : 0 < x.numerator := Nat.mul_pos positive (Nat.pow_pos Nat.two_pos)
  have unit : (0 : ℚ) < 2 ^ x.exponent := zpow_pos two_pos _
  have quotientPositive : (0 : ℚ) < x.significand * 2 ^ x.exponent := by positivity
  have upper : Int.log 2 (x.significand * 2 ^ x.exponent : ℚ) < (53 : ℕ) + x.exponent := by
    apply (Int.lt_zpow_iff_log_lt Nat.one_lt_two quotientPositive).mp
    rw [zpow_add_eq_mul]
    exact mul_lt_mul_of_pos_right (by exact_mod_cast x.significand_lt) unit
  rw [gridExponent_eq numeratorPositive x.denominator_pos, quotient_eq]
  rcases x.exponent_eq_or_le_significand with least | ⟨inRange, full⟩
  · omega
  · have lower : (52 : ℕ) + x.exponent ≤ Int.log 2 (x.significand * 2 ^ x.exponent : ℚ) := by
      apply (Int.zpow_le_iff_le_log Nat.one_lt_two quotientPositive).mp
      rw [zpow_add_eq_mul]
      exact mul_le_mul_of_nonneg_right (by exact_mod_cast full) unit.le
    omega

/-- A finite number is what its own value is rounded to. -/
theorem nearestMagnitude_self (finite : x.isFinite = true) :
    nearestMagnitude x.numerator x.denominator = x.magnitude := by
  have exact := x.magnitude_eq
  rcases Nat.eq_zero_or_pos x.significand with zero | positive
  · have none : x.numerator = 0 := by rw [numerator, zero, Nat.zero_mul]
    have least : x.exponent = -1074 := by
      rcases x.exponent_eq_or_le_significand with least | ⟨-, full⟩
      · exact least
      · rw [zero] at full
        cases full
    rw [nearestMagnitude, if_pos none, ← exact, zero, least]
    rfl
  · have some : x.numerator ≠ 0 := (Nat.mul_pos positive (Nat.pow_pos Nat.two_pos)).ne'
    have rounded : roundQuotient (x.numerator * Nat.pow 2 (-x.exponent).toNat)
        (x.denominator * Nat.pow 2 x.exponent.toNat) = x.significand := by
      rw [numerator, denominator, Nat.mul_assoc, Nat.mul_comm (Nat.pow 2 (-x.exponent).toNat)]
      exact roundQuotient_self _ (Nat.mul_pos (Nat.pow_pos Nat.two_pos) (Nat.pow_pos Nat.two_pos))
    have notInfinite : x.magnitude ≤ infiniteMagnitude := Nat.le_of_lt (of_decide_eq_true finite)
    simp only [nearestMagnitude, if_neg some, gridExponent_self positive, rounded, exact]
    exact Nat.min_eq_right notInfinite

/-! ## Decimals -/

theorem nearestMagnitude_le (numerator denominator : ℕ) :
    nearestMagnitude numerator denominator ≤ infiniteMagnitude := by
  rw [nearestMagnitude]
  split
  next => exact Nat.zero_le _
  next => exact Nat.min_le_left _ _

theorem magnitude_ofQuotient (negative : Bool) (numerator denominator : ℕ) :
    (ofQuotient negative numerator denominator).magnitude =
      nearestMagnitude numerator denominator :=
  magnitude_ofMagnitude (Nat.lt_of_le_of_lt (nearestMagnitude_le _ _) (by decide)) negative

/-- Zeros at the end of the digits may be moved into the exponent. -/
theorem ofDecimal_mul_pow (negative : Bool) (digits zeros : ℕ) (exponent : ℤ) :
    ofDecimal negative (digits * 10 ^ zeros) exponent =
      ofDecimal negative digits (exponent + zeros) := by
  rw [ofDecimal, ofDecimal, ofQuotient, ofQuotient]
  congr 1
  apply nearestMagnitude_congr (Nat.pow_pos (by decide)) (Nat.pow_pos (by decide))
  simp only [Nat.pow_eq, Nat.mul_assoc, ← Nat.pow_add]
  congr 2
  omega

end ClusterQuery.Binary64

namespace ClusterQuery.Decimal

variable {x : Binary64}

theorem denotes_of_onGrid {exponent : ℤ} {decimal : Decimal}
    (found : onGrid x exponent = some decimal) : denotes x decimal = true :=
  List.find?_some found

/-- The exact value of a finite number denotes it. -/
theorem denotes_exact (finite : x.isFinite = true) : denotes x (exact x) = true := by
  rw [denotes, beq_iff_eq, Binary64.ofDecimal, Binary64.magnitude_ofQuotient,
    ← Binary64.nearestMagnitude_self finite]
  apply Binary64.nearestMagnitude_congr (Nat.pow_pos (by decide)) x.denominator_pos
  have tens : 10 ^ (-(min 0 x.exponent)).toNat =
      5 ^ (-x.exponent).toNat * 2 ^ (-x.exponent).toNat := by
    rw [← Nat.mul_pow]
    congr 1
    omega
  have noTens : (min 0 x.exponent).toNat = 0 := by omega
  simp only [exact, Binary64.numerator, Binary64.denominator, Nat.pow_eq, tens, noTens,
    Nat.pow_zero, Nat.mul_one, Nat.mul_assoc]

/-- The shortest decimal of a finite number denotes it. -/
theorem denotes_shortest (finite : x.isFinite = true) : denotes x (shortest x) = true := by
  rw [shortest]
  cases searched : ((List.range 17).map fun (more : Nat) =>
      leadingExponent x.numerator x.denominator - (more : Int)).findSome? (onGrid x) with
  | none => exact denotes_exact finite
  | some decimal =>
      obtain ⟨_, _, found⟩ := List.exists_of_findSome?_eq_some searched
      exact denotes_of_onGrid found

/-- Reading the shortest decimal of a finite number gives the number back. -/
theorem ofDecimal_shortest (finite : x.isFinite = true) :
    Binary64.ofDecimal x.isNegative (shortest x).digits (shortest x).exponent = x := by
  have same := beq_iff_eq.mp (denotes_shortest finite)
  rw [Binary64.ofDecimal, Binary64.magnitude_ofQuotient] at same
  rw [Binary64.ofDecimal, Binary64.ofQuotient, same, Binary64.ofMagnitude_magnitude]

theorem digits_shortest_pos (finite : x.isFinite = true) (notZero : x.isZero = false) :
    0 < (shortest x).digits := by
  apply Nat.pos_of_ne_zero
  intro none
  have same := beq_iff_eq.mp (denotes_shortest finite)
  rw [Binary64.ofDecimal, Binary64.magnitude_ofQuotient, none, Nat.zero_mul,
    Binary64.nearestMagnitude, if_pos rfl] at same
  rw [Binary64.isZero, ← same] at notZero
  cases notZero

end ClusterQuery.Decimal

import LoxTokenizer.Number.Decimal

namespace LoxTokenizer
namespace Number

/-!
# Rounding to doubles

Rounding depends on the value of a ratio and not on the two numbers that it is given by, so a decimal
may be given with more zeros or fewer.  A finite double is what its own value is rounded to.  Hence the
search for a short decimal always comes to one that reads back: if none of the short ones did, the
exact expansion would.
-/

-- Powers of natural numbers are those of the core library, whatever else is imported.
attribute [local instance (high)] instPowNat

/-! ## Ratios -/

theorem roundHalfEven_mul (numerator denominator : Nat) {factor : Nat} (positive : 0 < factor) :
    roundHalfEven (factor * numerator) (factor * denominator) =
      roundHalfEven numerator denominator := by
  have twice : 2 * (factor * (numerator % denominator)) =
      factor * (2 * (numerator % denominator)) := Nat.mul_left_comm _ _ _
  simp only [roundHalfEven, Nat.mul_div_mul_left _ _ positive, Nat.mul_mod_mul_left, twice,
    Nat.mul_lt_mul_left positive]

theorem roundHalfEven_multiple (quotient : Nat) {denominator : Nat} (positive : 0 < denominator) :
    roundHalfEven (denominator * quotient) denominator = quotient := by
  simp [roundHalfEven, Nat.mul_div_cancel_left _ positive, positive]

@[simp] theorem nearestMagnitude_zero (denominator : Nat) : nearestMagnitude 0 denominator = 0 := by
  simp [nearestMagnitude, roundHalfEven]

/-- Both sides of a ratio can be multiplied. -/
theorem nearestMagnitude_mul (numerator denominator : Nat) {factor : Nat} (positive : 0 < factor) :
    nearestMagnitude (factor * numerator) (factor * denominator) =
      nearestMagnitude numerator denominator := by
  simp only [nearestMagnitude, Nat.mul_assoc, Nat.mul_div_mul_left _ _ positive,
    roundHalfEven_mul _ _ positive]

/-! ## Doubles -/

theorem quantaPerOne_pos : 0 < quantaPerOne := by decide +kernel

/-- A magnitude is its exponent field over its fraction; a significand with its leading one carries
into the field. -/
theorem magnitude_eq (magnitude : Nat) :
    (exponentField magnitude - 1) * 2 ^ (52 : Nat) + significand magnitude = magnitude := by
  have parts := Nat.div_add_mod magnitude (2 ^ (52 : Nat))
  rw [significand]
  split
  · rename_i empty
    rw [exponentField] at empty
    simp only [exponentField, empty] at parts ⊢
    omega
  · rename_i filled
    rw [exponentField] at filled ⊢
    obtain ⟨field, isField⟩ := Nat.exists_eq_succ_of_ne_zero filled
    rw [isField] at parts ⊢
    omega

/-- The bits of a value that do not fit into a significand are those that the exponent stands for. -/
theorem log2_quanta (magnitude : Nat) :
    (quanta magnitude).log2 - 52 = exponentField magnitude - 1 := by
  have fraction := Nat.mod_lt magnitude (Nat.two_pow_pos 52)
  rw [quanta, significand]
  split
  · rename_i empty
    rw [empty, Nat.pow_zero, Nat.mul_one]
    by_cases zero : magnitude % 2 ^ (52 : Nat) = 0
    · rw [zero, Nat.log2_zero]
    · have few := (Nat.log2_lt zero).mpr fraction
      omega
  · generalize exponentField magnitude - 1 = scale
    have positive := Nat.two_pow_pos scale
    have leading : (2 ^ (52 : Nat) + magnitude % 2 ^ (52 : Nat)) * 2 ^ scale ≠ 0 :=
      Nat.mul_ne_zero (by omega) (Nat.ne_of_gt positive)
    have bits : ((2 ^ (52 : Nat) + magnitude % 2 ^ (52 : Nat)) * 2 ^ scale).log2 = 52 + scale := by
      rw [Nat.log2_eq_iff leading, Nat.add_right_comm, Nat.pow_add, Nat.pow_add]
      exact ⟨Nat.mul_le_mul_right _ (by omega), Nat.mul_lt_mul_of_pos_right (by omega) positive⟩
    rw [bits, Nat.add_sub_cancel_left]

/-- A finite double is what its value is rounded to. -/
theorem nearestMagnitude_quanta {magnitude : Nat} (finite : magnitude < infinityMagnitude) :
    nearestMagnitude (quanta magnitude) quantaPerOne = magnitude := by
  have exact : quanta magnitude * quantaPerOne / quantaPerOne = quanta magnitude :=
    Nat.mul_div_cancel _ quantaPerOne_pos
  have kept : roundHalfEven (quanta magnitude * quantaPerOne)
      (quantaPerOne * 2 ^ (exponentField magnitude - 1)) = significand magnitude := by
    rw [Nat.mul_comm, roundHalfEven_mul _ _ quantaPerOne_pos, quanta, Nat.mul_comm]
    exact roundHalfEven_multiple _ (Nat.two_pow_pos _)
  simp only [nearestMagnitude, exact, log2_quanta, kept, magnitude_eq]
  exact Nat.min_eq_right (Nat.le_of_lt finite)

/-! ## Decimals -/

namespace Decimal

@[simp] theorem magnitude_zero (exponent : Int) : magnitude ⟨0, exponent⟩ = 0 := by
  cases exponent <;> simp [magnitude]

/-- Zeros at the end of the coefficient can be counted in the exponent instead. -/
theorem magnitude_shift (coefficient places : Nat) (exponent : Int) :
    magnitude ⟨coefficient * 10 ^ places, exponent⟩ = magnitude ⟨coefficient, exponent + places⟩ := by
  cases exponent with
  | ofNat exponent =>
      have sum : Int.ofNat exponent + (places : Int) = Int.ofNat (places + exponent) := by
        simp [Int.add_comm]
      rw [sum]
      simp only [magnitude, Nat.mul_assoc, Nat.pow_add]
  | negSucc exponent =>
      by_cases few : places ≤ exponent
      · have sum : Int.negSucc exponent + (places : Int) = Int.negSucc (exponent - places) := by
          omega
        have split : 10 ^ (exponent + 1) = 10 ^ places * 10 ^ (exponent - places + 1) := by
          rw [← Nat.pow_add]
          congr 1
          omega
        rw [sum]
        simp only [magnitude]
        rw [split, Nat.mul_comm, nearestMagnitude_mul _ _ (Nat.pow_pos (by decide))]
      · obtain ⟨more, rfl⟩ := Nat.exists_eq_add_of_lt (Nat.lt_of_not_le few)
        have sum : Int.negSucc exponent + ((exponent + more + 1 : Nat) : Int) = Int.ofNat more := by
          simp only [Int.ofNat_eq_natCast]
          omega
        have scaled : coefficient * 10 ^ (exponent + more + 1) =
            10 ^ (exponent + 1) * (coefficient * 10 ^ more) := by
          rw [Nat.add_right_comm, Nat.pow_add, Nat.mul_left_comm]
        have cut := nearestMagnitude_mul (coefficient * 10 ^ more) 1
          (Nat.pow_pos (by decide) : 0 < 10 ^ (exponent + 1))
        rw [Nat.mul_one] at cut
        rw [sum]
        simp only [magnitude]
        rw [scaled, cut]

/-- Places behind the point divide by a power of ten. -/
theorem magnitude_places (coefficient places : Nat) :
    magnitude ⟨coefficient, -(places : Int)⟩ = nearestMagnitude coefficient (10 ^ places) := by
  cases places with
  | zero => simp [magnitude]
  | succ places => rfl

/-- A fraction over a power of two, written with all its decimal places. -/
theorem magnitude_fives (numerator places : Nat) :
    magnitude ⟨numerator * 5 ^ places, -(places : Int)⟩ = nearestMagnitude numerator (2 ^ places) := by
  have tens : 10 ^ places = 5 ^ places * 2 ^ places := by
    rw [← Nat.mul_pow]
  rw [magnitude_places, tens, Nat.mul_comm numerator,
    nearestMagnitude_mul _ _ (Nat.pow_pos (by decide))]

/-- The exact expansion reads back. -/
theorem magnitude_exact {magnitude : Nat} (finite : magnitude < infinityMagnitude) :
    (exact magnitude).magnitude = magnitude := by
  have reads := nearestMagnitude_quanta finite
  rw [quantaPerOne, ← magnitude_fives (quanta magnitude) 1074] at reads
  exact reads

/-- Whatever the search comes to reads back. -/
theorem magnitude_shortest (tie : Tie) {magnitude : Nat} (finite : magnitude < infinityMagnitude) :
    (shortest tie magnitude).magnitude = magnitude := by
  simp only [shortest]
  cases found : (List.range 17).findSome? fun (places : Nat) =>
      neighbour? tie magnitude (leadingExponent magnitude - (places : Int)) with
  | none => exact magnitude_exact finite
  | some x =>
      rcases List.exists_of_findSome?_eq_some found with ⟨places, _, offered⟩
      exact magnitude_of_neighbour? offered

end Decimal

end Number
end LoxTokenizer

import LoxTokenizer.Number.Layout
import LoxTokenizer.Number.Numeral
import LoxTokenizer.Proofs.Number.Rounding
import LoxTokenizer.Proofs.Text.Run

namespace LoxTokenizer
namespace Number

/-!
# The text of a number

However a finite double is laid out, its text is a numeral: digits without a needless zero in front, a
point with digits behind it, and perhaps an exponent.  A numeral stands for a decimal, and the decimal
that the text stands for is rounded to the double that was written.  So nothing is lost in any layout,
and a reader only has to know what numerals stand for.
-/

-- Powers of natural numbers are those of the core library, whatever else is imported.
attribute [local instance (high)] instPowNat

/-! ## Digits -/

def AllDigits (digits : List Char) : Prop := ∀ digit ∈ digits, digit.isDigit = true

theorem AllDigits.append {first second : List Char} (allFirst : AllDigits first)
    (allSecond : AllDigits second) : AllDigits (first ++ second) :=
  List.forall_mem_append.mpr ⟨allFirst, allSecond⟩

theorem allDigits_zeros (count : Nat) : AllDigits (List.replicate count '0') := by
  intro digit member
  rw [List.eq_of_mem_replicate member]
  rfl

theorem allDigits_toDigits (value : Nat) : AllDigits (Nat.toDigits 10 value) := by
  intro digit member
  exact Nat.isDigit_of_mem_toDigits (by decide) (by decide) member

theorem digitsValue_eq (digits : List Char) :
    digitsValue digits = Nat.ofDigitChars 10 digits 0 := rfl

theorem digitsValue_toDigits (value : Nat) : digitsValue (Nat.toDigits 10 value) = value := by
  rw [digitsValue_eq, Nat.ofDigitChars_ten_toDigits]

theorem digitsValue_append_zeros (digits : List Char) (count : Nat) :
    digitsValue (digits ++ List.replicate count '0') = digitsValue digits * 10 ^ count := by
  rw [digitsValue_eq, digitsValue_eq, Nat.ofDigitChars_append, Nat.ofDigitChars_replicate_zero,
    Nat.mul_comm]

theorem digitsValue_zeros_append (digits : List Char) (count : Nat) :
    digitsValue (List.replicate count '0' ++ digits) = digitsValue digits := by
  rw [digitsValue_eq, digitsValue_eq, Nat.ofDigitChars_append, Nat.ofDigitChars_replicate_zero,
    Nat.mul_zero]

/-- A digit in front that is no zero. -/
def Leads (digits : List Char) : Prop := ∃ first more, digits = first :: more ∧ first ≠ '0'

/-- The digits in front of the point, without a needless zero. -/
structure IsWhole (digits : List Char) : Prop where
  all : AllDigits digits
  leads : digits = ['0'] ∨ Leads digits

theorem Leads.append {digits : List Char} (leads : Leads digits) (behind : List Char) :
    Leads (digits ++ behind) := by
  rcases leads with ⟨first, more, rfl, noZero⟩
  exact ⟨first, more ++ behind, rfl, noZero⟩

theorem leads_toDigits {value : Nat} (positive : 0 < value) : Leads (Nat.toDigits 10 value) := by
  induction value using Nat.strongRecOn with
  | ind value ih =>
      rw [Nat.toDigits_eq_if (by decide)]
      split
      · refine ⟨value.digitChar, [], rfl, ?_⟩
        rw [Ne, Nat.digitChar_eq_zero]
        exact Nat.ne_of_gt positive
      · exact (ih (value / 10) (by omega) (by omega)).append _

theorem isWhole_toDigits (value : Nat) : IsWhole (Nat.toDigits 10 value) where
  all := allDigits_toDigits value
  leads := by
    rcases Nat.eq_zero_or_pos value with rfl | positive
    · exact Or.inl (Nat.toDigits_zero 10)
    · exact Or.inr (leads_toDigits positive)

/-! ## Numerals -/

/-- The sign of an exponent. -/
def exponentSign (exponent : Int) : Char := if exponent < 0 then '-' else '+'

/-- A point and the places behind it, if there are any. -/
def fractionText (places : List Char) : List Char :=
  if places.isEmpty then [] else '.' :: places

/-- `Numeral text x`: the text is an unsigned number and stands for the decimal. -/
inductive Numeral : List Char → Decimal → Prop where
  | positional {whole places : List Char} (isWhole : IsWhole whole) (some : places ≠ [])
      (all : AllDigits places) :
      Numeral (whole ++ '.' :: places) ⟨digitsValue (whole ++ places), -(places.length : Int)⟩
  | scientific {whole places : List Char} (isWhole : IsWhole whole) (all : AllDigits places)
      (exponent : Int) :
      Numeral
        (whole ++ fractionText places ++
          'e' :: exponentSign exponent :: Nat.toDigits 10 exponent.natAbs)
        ⟨digitsValue (whole ++ places), exponent - places.length⟩

/-- What a numeral is written with. -/
def isNumeralPart (char : Char) : Bool := char.isDigit || char ∈ ['.', 'e', '+', '-']

theorem AllDigits.numeralParts {digits : List Char} (all : AllDigits digits) :
    ∀ char ∈ digits, isNumeralPart char = true := by
  intro char member
  rw [isNumeralPart, all char member, Bool.true_or]

theorem isNumeralPart_exponentSign (exponent : Int) :
    isNumeralPart (exponentSign exponent) = true := by
  rw [exponentSign]
  split <;> decide

theorem Numeral.numeralParts {text : List Char} {x : Decimal} (numeral : Numeral text x) :
    ∀ char ∈ text, isNumeralPart char = true := by
  cases numeral with
  | positional isWhole some all =>
      rw [List.forall_mem_append]
      exact ⟨isWhole.all.numeralParts, List.forall_mem_cons.mpr ⟨by decide, all.numeralParts⟩⟩
  | @scientific whole places isWhole all exponent =>
      have fraction : ∀ char ∈ fractionText places, isNumeralPart char = true := by
        rw [fractionText]
        split
        · exact fun char member => absurd member List.not_mem_nil
        · exact List.forall_mem_cons.mpr ⟨by decide, all.numeralParts⟩
      rw [List.forall_mem_append]
      refine ⟨List.forall_mem_append.mpr ⟨isWhole.all.numeralParts, fraction⟩, ?_⟩
      rw [List.forall_mem_cons]
      refine ⟨by decide, List.forall_mem_cons.mpr ⟨isNumeralPart_exponentSign exponent, ?_⟩⟩
      exact (allDigits_toDigits _).numeralParts

theorem IsWhole.starts {whole : List Char} (isWhole : IsWhole whole) :
    ∃ first more, whole = first :: more ∧ first.isDigit = true := by
  rcases isWhole with ⟨all, rfl | ⟨first, more, rfl, _⟩⟩
  · exact ⟨'0', [], rfl, rfl⟩
  · exact ⟨first, more, rfl, all first List.mem_cons_self⟩

theorem Numeral.starts {text : List Char} {x : Decimal} (numeral : Numeral text x) :
    ∃ first more, text = first :: more ∧ first.isDigit = true := by
  cases numeral with
  | positional isWhole =>
      rcases isWhole.starts with ⟨first, more, rfl, digit⟩
      exact ⟨first, _, rfl, digit⟩
  | scientific isWhole =>
      rcases isWhole.starts with ⟨first, more, rfl, digit⟩
      exact ⟨first, _, rfl, digit⟩

/-! ## Expansions -/

/-- An expansion has the value of a decimal, and no zero in front. -/
structure Expansion.Expands (expansion : Expansion) (x : Decimal) : Prop where
  leads : Leads expansion.digits
  all : AllDigits expansion.digits
  same : Decimal.magnitude
    ⟨digitsValue expansion.digits, expansion.point - expansion.digits.length⟩ = x.magnitude

/-- Zeros are cut off the end of some digits. -/
theorem exists_eq_append_zeros (digits : List Char) :
    ∃ count, digits =
      (digits.reverse.dropWhile (· == '0')).reverse ++ List.replicate count '0' := by
  have zeros : ∀ digit ∈ digits.reverse.takeWhile (· == '0'), digit = '0' := by
    intro digit member
    exact eq_of_beq (List.all_eq_true.mp List.all_takeWhile digit member)
  refine ⟨(digits.reverse.takeWhile (· == '0')).length, ?_⟩
  rw [← List.reverse_replicate, ← List.eq_replicate_iff.mpr ⟨rfl, zeros⟩, ← List.reverse_append,
    List.takeWhile_append_dropWhile, List.reverse_reverse]

/-- A decimal is expanded to the digits of its coefficient, up to zeros at their end. -/
theorem expands_ofDecimal {x : Decimal} (positive : 0 < x.coefficient) :
    (Expansion.ofDecimal x).Expands x := by
  rcases exists_eq_append_zeros (Nat.toDigits 10 x.coefficient) with ⟨count, divided⟩
  have value := digitsValue_toDigits x.coefficient
  have leads := leads_toDigits positive
  have all := allDigits_toDigits x.coefficient
  simp only [Expansion.ofDecimal]
  generalize (List.dropWhile (· == '0') _).reverse = digits at divided ⊢
  rw [divided] at value leads all ⊢
  rw [digitsValue_append_zeros] at value
  constructor
  · cases digits with
    | nil =>
        rw [digitsValue_eq, Nat.ofDigitChars_nil, Nat.zero_mul] at value
        omega
    | cons first more =>
        rcases leads with ⟨other, behind, same, noZero⟩
        cases same
        exact ⟨first, more, rfl, noZero⟩
  · intro digit member
    exact all digit (List.mem_append_left _ member)
  · have point : ((digits ++ List.replicate count '0').length : Int) + x.exponent - digits.length =
        x.exponent + count := by
      simp only [List.length_append, List.length_replicate]
      omega
    rw [point, ← Decimal.magnitude_shift, value]

/-! ## What is written denotes what was to be written -/

/-- The text is a numeral, and what it stands for is rounded to the magnitude. -/
def Denotes (text : List Char) (magnitude : Nat) : Prop :=
  ∃ x, Numeral text x ∧ x.magnitude = magnitude

/-- The text is a numeral without an exponent, digits and a point with digits behind it, and what it
stands for is rounded to the magnitude. -/
def DenotesInPlaces (text : List Char) (magnitude : Nat) : Prop :=
  ∃ whole places, text = whole ++ '.' :: places ∧ IsWhole whole ∧ places ≠ [] ∧ AllDigits places ∧
    Decimal.magnitude ⟨digitsValue (whole ++ places), -(places.length : Int)⟩ = magnitude

theorem DenotesInPlaces.denotes {text : List Char} {magnitude : Nat}
    (inPlaces : DenotesInPlaces text magnitude) : Denotes text magnitude := by
  rcases inPlaces with ⟨whole, places, rfl, isWhole, some, all, same⟩
  exact ⟨_, .positional isWhole some all, same⟩

theorem AllDigits.point_not_mem {digits : List Char} (all : AllDigits digits) : '.' ∉ digits := by
  intro member
  exact absurd (all '.' member) (by decide)

/-- A numeral without an exponent is read as the magnitude that it denotes. -/
theorem DenotesInPlaces.magnitude_numeralValue {text : List Char} {magnitude : Nat}
    (inPlaces : DenotesInPlaces text magnitude) : (numeralValue text).magnitude = magnitude := by
  rcases inPlaces with ⟨whole, places, rfl, isWhole, _, _, same⟩
  have run : Text.IsRun (· != '.') whole ('.' :: places) :=
    .ne_of_not_mem isWhole.all.point_not_mem (by simp)
  rw [Decimal.magnitude_places] at same
  simp only [numeralValue, run.takeWhile_eq, run.dropWhile_eq, List.drop_succ_cons, List.drop_zero]
  exact same

/-- A double that is not negative is read from a numeral that denotes its magnitude. -/
theorem DenotesInPlaces.numeralValue_eq {text : List Char} {value : Double}
    (inPlaces : DenotesInPlaces text value.magnitude) (positive : value.negative = false) :
    numeralValue text = value := by
  have sameSign : (numeralValue text).negative = value.negative :=
    (negative_numeralValue text).trans positive.symm
  have sameMagnitude := inPlaces.magnitude_numeralValue
  generalize numeralValue text = read at sameSign sameMagnitude
  cases read
  cases value
  cases sameSign
  cases sameMagnitude
  rfl

namespace Expansion.Expands

variable {expansion : Expansion} {x : Decimal}

/-- A number below one. -/
theorem denotes_small (expands : expansion.Expands x) (small : expansion.point ≤ 0) :
    DenotesInPlaces (['0'] ++ '.' :: (List.replicate (-expansion.point).toNat '0' ++ expansion.digits))
      x.magnitude := by
  rcases expands.leads with ⟨first, more, isDigits, noZero⟩
  refine ⟨_, _, rfl, isWhole_toDigits 0, by simp [isDigits],
    (allDigits_zeros _).append expands.all, ?_⟩
  have value : digitsValue (['0'] ++ (List.replicate (-expansion.point).toNat '0' ++
      expansion.digits)) = digitsValue expansion.digits :=
    digitsValue_zeros_append expansion.digits ((-expansion.point).toNat + 1)
  have exponent : -((List.replicate (-expansion.point).toNat '0' ++ expansion.digits).length : Int) =
      expansion.point - expansion.digits.length := by
    simp only [List.length_append, List.length_replicate]
    omega
  rw [← expands.same, ← exponent, ← value]

/-- A whole number, with a zero behind its point. -/
theorem denotes_whole (expands : expansion.Expands x)
    (whole : (expansion.digits.length : Int) ≤ expansion.point) :
    DenotesInPlaces (expansion.digits ++
        List.replicate (expansion.point.toNat - expansion.digits.length) '0' ++ '.' :: ['0'])
      x.magnitude := by
  refine ⟨_, _, rfl, ⟨expands.all.append (allDigits_zeros _), Or.inr (expands.leads.append _)⟩,
    by simp, allDigits_zeros 1, ?_⟩
  have value : digitsValue (expansion.digits ++
        List.replicate (expansion.point.toNat - expansion.digits.length) '0' ++ ['0']) =
      digitsValue expansion.digits * 10 ^ (expansion.point.toNat - expansion.digits.length + 1) := by
    rw [← digitsValue_append_zeros, List.replicate_succ', List.append_assoc]
  have exponent : -1 + ((expansion.point.toNat - expansion.digits.length + 1 : Nat) : Int) =
      expansion.point - expansion.digits.length := by
    omega
  rw [value, ← expands.same, ← exponent, ← Decimal.magnitude_shift]
  rfl

/-- A number with a fraction. -/
theorem denotes_fraction (expands : expansion.Expands x) (large : 0 < expansion.point)
    (fraction : expansion.point < expansion.digits.length) :
    DenotesInPlaces (expansion.digits.take expansion.point.toNat ++
        '.' :: expansion.digits.drop expansion.point.toNat) x.magnitude := by
  rcases expands.leads with ⟨first, more, isDigits, noZero⟩
  have leads : Leads (expansion.digits.take expansion.point.toNat) := by
    refine ⟨first, more.take (expansion.point.toNat - 1), ?_, noZero⟩
    rw [isDigits, ← List.take_succ_cons]
    congr 1
    omega
  have some : expansion.digits.drop expansion.point.toNat ≠ [] := by
    rw [Ne, List.drop_eq_nil_iff]
    omega
  refine ⟨_, _, rfl,
    ⟨fun digit member => expands.all digit (List.mem_of_mem_take member), Or.inr leads⟩, some,
    fun digit member => expands.all digit (List.mem_of_mem_drop member), ?_⟩
  have exponent : -((expansion.digits.drop expansion.point.toNat).length : Int) =
      expansion.point - expansion.digits.length := by
    rw [List.length_drop]
    omega
  rw [List.take_append_drop, exponent, expands.same]

/-- Digits in their places. -/
theorem denotes_positional (expands : expansion.Expands x) :
    DenotesInPlaces expansion.positional x.magnitude := by
  rw [positional]
  split
  · rename_i small
    exact expands.denotes_small small
  · rename_i large
    by_cases whole : (expansion.digits.length : Int) ≤ expansion.point
    · have nothing : expansion.digits.drop expansion.point.toNat = [] :=
        List.drop_eq_nil_iff.mpr (by omega)
      have everything : expansion.digits.take expansion.point.toNat = expansion.digits :=
        List.take_of_length_le (by omega)
      simpa only [nothing, everything, List.isEmpty_nil, if_true] using expands.denotes_whole whole
    · have some : (expansion.digits.drop expansion.point.toNat).isEmpty = false := by
        rw [List.isEmpty_eq_false_iff, Ne, List.drop_eq_nil_iff]
        omega
      have full : expansion.point.toNat - expansion.digits.length = 0 := by omega
      have denotes := expands.denotes_fraction (by omega) (by omega)
      simpa only [some, full, List.replicate_zero, List.append_nil, Bool.false_eq_true, if_false]
        using denotes

/-- One digit, the others behind a point, and an exponent. -/
theorem denotes_scientific (expands : expansion.Expands x) :
    Denotes expansion.scientific x.magnitude := by
  rcases expands.leads with ⟨first, more, isDigits, noZero⟩
  have all := expands.all
  rw [isDigits] at all
  rcases List.forall_mem_cons.mp all with ⟨isDigit, allMore⟩
  have isWhole : IsWhole [first] :=
    ⟨List.forall_mem_singleton.mpr isDigit, Or.inr ⟨first, [], rfl, noZero⟩⟩
  have numeral := Numeral.scientific isWhole allMore (expansion.point - 1)
  have exponent : expansion.point - 1 - more.length =
      expansion.point - expansion.digits.length := by
    rw [isDigits, List.length_cons]
    omega
  rw [exponent, List.singleton_append, List.singleton_append, ← isDigits] at numeral
  refine ⟨_, ?_, expands.same⟩
  rw [scientific]
  simpa only [isDigits, fractionText, exponentSign, List.take_succ_cons, List.take_zero,
    List.drop_succ_cons, List.drop_zero, List.cons_append, List.nil_append] using numeral

end Expansion.Expands

/-- A whole number with all its digits. -/
theorem denotes_inFull {magnitude : Nat} (finite : magnitude < infinityMagnitude)
    (whole : quanta magnitude % quantaPerOne = 0) :
    DenotesInPlaces (Nat.toDigits 10 (quanta magnitude / quantaPerOne) ++ '.' :: ['0'])
      magnitude := by
  refine ⟨_, _, rfl, isWhole_toDigits _, by simp, allDigits_zeros 1, ?_⟩
  have ones : quantaPerOne * (quanta magnitude / quantaPerOne) = quanta magnitude :=
    Nat.mul_div_cancel' (Nat.dvd_of_mod_eq_zero whole)
  have value : digitsValue (Nat.toDigits 10 (quanta magnitude / quantaPerOne) ++ ['0']) =
      quanta magnitude / quantaPerOne * 10 ^ 1 := by
    rw [← List.replicate_one, digitsValue_append_zeros, digitsValue_toDigits]
  calc
    Decimal.magnitude ⟨digitsValue (Nat.toDigits 10 (quanta magnitude / quantaPerOne) ++ ['0']), -1⟩
      = Decimal.magnitude ⟨quanta magnitude / quantaPerOne, 0⟩ := by
        rw [value, Decimal.magnitude_shift]
        rfl
    _ = nearestMagnitude (quanta magnitude / quantaPerOne) 1 := by
        simp only [Decimal.magnitude]
        rw [Nat.pow_zero, Nat.mul_one]
    _ = nearestMagnitude (quanta magnitude) quantaPerOne := by
        rw [← nearestMagnitude_mul _ _ quantaPerOne_pos, ones, Nat.mul_one]
    _ = magnitude := nearestMagnitude_quanta finite

namespace Layout

variable {magnitude : Nat}

theorem coefficient_shortest_pos (tie : Tie) (finite : magnitude < infinityMagnitude)
    (positive : magnitude ≠ 0) : 0 < (Decimal.shortest tie magnitude).coefficient := by
  have reads := Decimal.magnitude_shortest tie finite
  apply Nat.pos_of_ne_zero
  intro zero
  generalize Decimal.shortest tie magnitude = x at reads zero
  rcases x with ⟨coefficient, exponent⟩
  cases zero
  rw [Decimal.magnitude_zero] at reads
  exact positive reads.symm

/-- A layout writes all digits in their places, or else it is one that writes the exponent of some
point. -/
theorem magnitudeText_forms (layout : Layout) (finite : magnitude < infinityMagnitude) :
    DenotesInPlaces (layout.magnitudeText magnitude) magnitude ∨
      ∃ (expansion : Expansion) (x : Decimal), expansion.Expands x ∧ x.magnitude = magnitude ∧
        layout.positional expansion.point = false ∧
        layout.magnitudeText magnitude = expansion.scientific := by
  rw [magnitudeText]
  split
  · rename_i zero
    rw [zero]
    exact Or.inl ⟨['0'], ['0'], rfl, isWhole_toDigits 0, by simp, allDigits_zeros 1,
      Decimal.magnitude_zero (-1)⟩
  · rename_i positive
    split
    · rename_i whole
      simp only [Bool.and_eq_true, beq_iff_eq] at whole
      exact Or.inl (denotes_inFull finite whole.2)
    · have reads := Decimal.magnitude_shortest layout.tie finite
      have expands := expands_ofDecimal (coefficient_shortest_pos layout.tie finite positive)
      simp only
      split
      · have denotes := expands.denotes_positional
        rw [reads] at denotes
        exact Or.inl denotes
      · rename_i withExponent
        exact Or.inr ⟨_, _, expands, reads, Bool.eq_false_iff.mpr withExponent, rfl⟩

/-- However a layout writes a finite magnitude, its text denotes the magnitude. -/
theorem denotes_magnitudeText (layout : Layout) (finite : magnitude < infinityMagnitude) :
    Denotes (layout.magnitudeText magnitude) magnitude := by
  rcases layout.magnitudeText_forms finite with inPlaces | ⟨expansion, x, expands, same, _, written⟩
  · exact inPlaces.denotes
  · rw [written, ← same]
    exact expands.denotes_scientific

/-- A layout that never writes an exponent writes digits in their places. -/
theorem denotesInPlaces_magnitudeText (layout : Layout)
    (noExponent : ∀ point, layout.positional point = true)
    (finite : magnitude < infinityMagnitude) :
    DenotesInPlaces (layout.magnitudeText magnitude) magnitude := by
  rcases layout.magnitudeText_forms finite with inPlaces | ⟨expansion, x, _, _, withExponent, _⟩
  · exact inPlaces
  · rw [noExponent] at withExponent
    cases withExponent

end Layout

end Number
end LoxTokenizer

import LoxTokenizer.Proofs.Text.Run
import LoxTokenizer.Proofs.Scan.Piece

namespace LoxTokenizer
namespace Scan

open Text (IsRun)

/-!
# Cuts by the shape of the text

What is cut off a text depends on its first character and on the shape of what follows.  For each
way to cut there is one equation for each shape, and a statement that these shapes are all there are.
Later arguments about cuts name the shape and use the equation; they do not open the definitions.
-/

/-- A text starts with a given character or does not. -/
theorem head_shapes (char : Char) (text : List Char) :
    (∃ rest, text = char :: rest) ∨ text.head? ≠ some char := by
  by_cases starts : text.head? = some char
  · exact Or.inl (List.head?_eq_some_iff.mp starts)
  · exact Or.inr starts

/-! ## Marks and comments -/

theorem cutMark_of_ne {following : List Char} (alone extended : Token.Punctuator)
    (other : following.head? ≠ some '=') :
    cutMark alone extended following = ⟨.token (.punctuator alone), [], following⟩ := by
  unfold cutMark
  split
  · exact absurd rfl other
  · rfl

theorem cutSlash_of_ne {following : List Char} (other : following.head? ≠ some '/') :
    cutSlash following = ⟨.token (.punctuator .slash), [], following⟩ := by
  unfold cutSlash
  split
  · exact absurd rfl other
  · rfl

theorem cutSlash_comment {body rest : List Char} (line : IsRun (· != '\n') body rest) :
    cutSlash ('/' :: (body ++ rest)) = ⟨.comment, '/' :: body, rest⟩ := by
  simp only [cutSlash, line.takeWhile_eq, line.dropWhile_eq]

/-! ## Strings -/

theorem cutString_closed {body : List Char} (inside : '"' ∉ body) (rest : List Char) :
    cutString (body ++ '"' :: rest) =
      ⟨.token (.string (String.ofList body)), body ++ ['"'], rest⟩ := by
  have run : IsRun (· != '"') body ('"' :: rest) := IsRun.ne_of_not_mem inside (by simp)
  simp only [cutString, run.takeWhile_eq, run.dropWhile_eq]

theorem cutString_open {body : List Char} (never : '"' ∉ body) :
    cutString body = ⟨.openString, body, []⟩ := by
  have run : IsRun (· != '"') body [] := IsRun.ne_of_not_mem never (by simp)
  have taken := run.takeWhile_eq
  have dropped := run.dropWhile_eq
  rw [List.append_nil] at taken dropped
  simp only [cutString, taken, dropped]

/-- A quote closes the string that has been opened, or there is no other. -/
theorem string_shapes (following : List Char) :
    (∃ body rest, following = body ++ '"' :: rest ∧ '"' ∉ body) ∨ '"' ∉ following := by
  by_cases closed : '"' ∈ following
  · exact Or.inl (List.eq_append_cons_of_mem closed)
  · exact Or.inr closed

/-! ## Numbers -/

/-- Whether a text starts with a point and a digit behind it. -/
def StartsFraction (text : List Char) : Prop :=
  ∃ place more, text = '.' :: place :: more ∧ place.isDigit = true

theorem startsFraction_iff (text : List Char) :
    StartsFraction text ↔
      text.head? = some '.' ∧ (text.drop 1).head?.any Char.isDigit = true := by
  constructor
  · rintro ⟨place, more, rfl, digit⟩
    exact ⟨rfl, digit⟩
  · rintro ⟨point, digit⟩
    rcases List.head?_eq_some_iff.mp point with ⟨behind, rfl⟩
    cases behind with
    | nil => simp at digit
    | cons place more => exact ⟨place, more, rfl, by simpa using digit⟩

theorem cutNumber_whole {digits rest : List Char} (first : Char)
    (whole : IsRun Char.isDigit digits rest) (noFraction : ¬ StartsFraction rest) :
    cutNumber first (digits ++ rest) =
      ⟨.token (.number (Number.numeralValue (first :: digits))), digits, rest⟩ := by
  have condition : ¬ (rest.head? = some '.' ∧ (rest.drop 1).takeWhile Char.isDigit ≠ []) := by
    rintro ⟨point, places⟩
    apply noFraction
    rw [startsFraction_iff]
    refine ⟨point, ?_⟩
    cases behind : rest.drop 1 with
    | nil => simp [behind] at places
    | cons place more =>
        cases digit : place.isDigit with
        | true => simpa using digit
        | false => simp [behind, digit] at places
  simp only [cutNumber, whole.takeWhile_eq, whole.dropWhile_eq, if_neg condition, List.drop_left]

theorem cutNumber_fraction {digits places rest : List Char} (first : Char)
    (whole : ∀ digit ∈ digits, digit.isDigit = true) (some : places ≠ [])
    (fraction : IsRun Char.isDigit places rest) :
    cutNumber first (digits ++ '.' :: (places ++ rest)) =
      ⟨.token (.number (Number.numeralValue (first :: (digits ++ '.' :: places)))),
        digits ++ '.' :: places, rest⟩ := by
  have run : IsRun Char.isDigit digits ('.' :: (places ++ rest)) := ⟨whole, by simp⟩
  have divided : digits ++ '.' :: (places ++ rest) = (digits ++ '.' :: places) ++ rest := by simp
  have condition : ('.' :: (places ++ rest)).head? = Option.some '.' ∧ places ≠ [] := ⟨rfl, some⟩
  simp only [cutNumber, run.takeWhile_eq, run.dropWhile_eq, List.drop_succ_cons, List.drop_zero,
    fraction.takeWhile_eq, if_pos condition]
  rw [divided, List.drop_left]

/-- What follows the first digit of a number is more digits, with a fraction behind them or not. -/
theorem number_shapes (following : List Char) :
    (∃ digits rest, following = digits ++ rest ∧ IsRun Char.isDigit digits rest ∧
      ¬ StartsFraction rest) ∨
    (∃ digits places rest, following = digits ++ '.' :: (places ++ rest) ∧
      (∀ digit ∈ digits, digit.isDigit = true) ∧ places ≠ [] ∧
      IsRun Char.isDigit places rest) := by
  rcases IsRun.exists_eq_append Char.isDigit following with ⟨digits, rest, rfl, whole⟩
  by_cases starts : StartsFraction rest
  · rcases starts with ⟨place, more, rfl, digit⟩
    rcases IsRun.exists_eq_append Char.isDigit (place :: more) with
      ⟨places, behind, divided, fraction⟩
    refine Or.inr ⟨digits, places, behind, by rw [divided], whole.all, ?_, fraction⟩
    rintro rfl
    rw [List.nil_append] at divided
    have stopped := fraction.stops place (by rw [← divided]; rfl)
    rw [digit] at stopped
    cases stopped
  · exact Or.inl ⟨digits, rest, rfl, whole, starts⟩

/-! ## Names -/

theorem cutName_run {more rest : List Char} (first : Char) (run : IsRun isNamePart more rest) :
    cutName first (more ++ rest) =
      ⟨.token (.ofName (String.ofList (first :: more))), more, rest⟩ := by
  simp only [cutName, run.takeWhile_eq, run.dropWhile_eq]

/-! ## The first character -/

/-- What names go on with is neither a mark, nor a slash, a quote or a blank. -/
theorem plain_of_isNamePart {char : Char} (part : isNamePart char = true) :
    soleMark? char = none ∧ equalMarks? char = none ∧ char ≠ '/' ∧ char ≠ '"' ∧
      isBlank char = false := by
  have other : ∀ special, isNamePart special = false → char ≠ special := by
    rintro special unnamed rfl
    rw [part] at unnamed
    cases unnamed
  refine ⟨?_, ?_, other '/' (by decide), other '"' (by decide), ?_⟩
  · unfold soleMark?
    split <;> first | rfl | exact absurd part (by decide)
  · unfold equalMarks?
    split <;> first | rfl | exact absurd part (by decide)
  · simp [isBlank, other ' ' (by decide), other '\r' (by decide), other '\t' (by decide),
      other '\n' (by decide)]

theorem isNamePart_of_isDigit {char : Char} (digit : char.isDigit = true) :
    isNamePart char = true := by
  simp [isNamePart, digit]

theorem isNamePart_of_isNameStart {char : Char} (starts : isNameStart char = true) :
    isNamePart char = true := by
  simp [isNamePart, starts]

/-- No digit starts a name. -/
theorem isDigit_of_isNameStart {char : Char} (starts : isNameStart char = true) :
    char.isDigit = false := by
  cases digit : char.isDigit with
  | false => rfl
  | true =>
      exfalso
      change (decide (48 ≤ char.val) && decide (char.val ≤ 57)) = true at digit
      change ((decide (65 ≤ char.val ∧ char.val ≤ 90) ||
        decide (97 ≤ char.val) && decide (char.val ≤ 122)) || char == '_') = true at starts
      simp only [Bool.or_eq_true, Bool.and_eq_true, decide_eq_true_eq, beq_iff_eq,
        UInt32.le_iff_toNat_le] at starts digit
      change 48 ≤ char.val.toNat ∧ char.val.toNat ≤ 57 at digit
      rcases starts with (upper | lower) | rfl
      · change 65 ≤ char.val.toNat ∧ char.val.toNat ≤ 90 at upper
        omega
      · change 97 ≤ char.val.toNat ∧ char.val.toNat ≤ 122 at lower
        omega
      · exact absurd digit (by decide)

section

variable {first : Char} (following : List Char)

theorem cutAt_of_soleMark {mark : Token.Punctuator} (sole : soleMark? first = some mark) :
    cutAt first following = ⟨.token (.punctuator mark), [], following⟩ := by
  simp only [cutAt, sole]

theorem soleMark?_of_equalMarks {marks : Token.Punctuator × Token.Punctuator}
    (extensible : equalMarks? first = some marks) : soleMark? first = none := by
  unfold equalMarks? at extensible
  split at extensible <;> first | rfl | cases extensible

theorem cutAt_of_equalMarks {alone extended : Token.Punctuator}
    (extensible : equalMarks? first = some (alone, extended)) :
    cutAt first following = cutMark alone extended following := by
  simp only [cutAt, soleMark?_of_equalMarks extensible, extensible]

theorem cutAt_slash : cutAt '/' following = cutSlash following := rfl

theorem cutAt_quote : cutAt '"' following = cutString following := rfl

theorem cutAt_of_isBlank (blank : isBlank first = true) :
    cutAt first following = ⟨.blank, [], following⟩ := by
  simp only [isBlank, Bool.or_eq_true, beq_iff_eq] at blank
  rcases blank with ((rfl | rfl) | rfl) | rfl <;> rfl

theorem cutAt_of_isDigit (digit : first.isDigit = true) :
    cutAt first following = cutNumber first following := by
  rcases plain_of_isNamePart (isNamePart_of_isDigit digit) with
    ⟨noSole, noEqual, noSlash, noQuote, noBlank⟩
  simp only [cutAt, noSole, noEqual, if_neg noSlash, if_neg noQuote, noBlank, digit, if_true,
    Bool.false_eq_true, if_false]

theorem cutAt_of_isNameStart (starts : isNameStart first = true) :
    cutAt first following = cutName first following := by
  rcases plain_of_isNamePart (isNamePart_of_isNameStart starts) with
    ⟨noSole, noEqual, noSlash, noQuote, noBlank⟩
  simp only [cutAt, noSole, noEqual, if_neg noSlash, if_neg noQuote, noBlank,
    isDigit_of_isNameStart starts, starts, if_true, Bool.false_eq_true, if_false]

/-- A character that nothing starts with. -/
structure IsStray (char : Char) : Prop where
  noSole : soleMark? char = none
  noEqual : equalMarks? char = none
  noSlash : char ≠ '/'
  noQuote : char ≠ '"'
  noBlank : isBlank char = false
  noDigit : char.isDigit = false
  noName : isNameStart char = false

theorem cutAt_of_isStray (stray : IsStray first) :
    cutAt first following = ⟨.stray, [], following⟩ := by
  simp only [cutAt, stray.noSole, stray.noEqual, if_neg stray.noSlash, if_neg stray.noQuote,
    stray.noBlank, stray.noDigit, stray.noName, Bool.false_eq_true, if_false]

end

/-- Every character starts something or is stray. -/
theorem first_shapes (first : Char) :
    (∃ mark, soleMark? first = some mark) ∨
    (∃ alone extended, equalMarks? first = some (alone, extended)) ∨
    first = '/' ∨ first = '"' ∨ isBlank first = true ∨ first.isDigit = true ∨
    isNameStart first = true ∨ IsStray first := by
  cases noSole : soleMark? first with
  | some mark => exact Or.inl ⟨mark, rfl⟩
  | none =>
      cases noEqual : equalMarks? first with
      | some marks => exact Or.inr (Or.inl ⟨marks.1, marks.2, rfl⟩)
      | none =>
          by_cases noSlash : first = '/'
          · simp [noSlash]
          · by_cases noQuote : first = '"'
            · simp [noQuote]
            · cases noBlank : isBlank first with
              | true => simp
              | false =>
                  cases noDigit : first.isDigit with
                  | true => simp
                  | false =>
                      cases noName : isNameStart first with
                      | true => simp
                      | false =>
                          have stray : IsStray first :=
                            ⟨noSole, noEqual, noSlash, noQuote, noBlank, noDigit, noName⟩
                          simp [stray]

end Scan
end LoxTokenizer

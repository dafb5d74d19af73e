import LoxTokenizer.Json.Reader
import LoxTokenizer.Proofs.Number.Text
import LoxTokenizer.Proofs.Text.Run

namespace LoxTokenizer
namespace Json

open Number (AllDigits Decimal IsWhole Numeral exponentSign fractionText)
open Text (IsRun)

/-!
# Reading strings and numbers

A string is read character by character: whatever was written for a character, be it escaped or not,
reads as that character.  A number is read as the numeral that it is.  Where a string ends is known
from its text, but a number ends where something follows that cannot be part of one.
-/

/-! ## Strings -/

theorem codedChar?_control {code : Nat} (control : code < 32) :
    codedChar? ['0', '0', hexDigit (code / 16), hexDigit (code % 16)] = some (Char.ofNat code) := by
  have every : ∀ code < 32,
      codedChar? ['0', '0', hexDigit (code / 16), hexDigit (code % 16)] = some (Char.ofNat code) := by
    decide
  exact every code control

theorem inside?_escape (char : Char) (rest : List Char) :
    inside? (escape char ++ rest) = withChar char (inside? rest) := by
  unfold escape
  split
  iterate 7 · simp [inside?, namedChar?]
  rename_i noQuote noBackslash _ _ _ _ _
  split
  · rename_i control
    have coded := codedChar?_control control
    rw [Char.ofNat_toNat] at coded
    simp [inside?, coded]
  · rename_i noControl
    rw [List.singleton_append, inside?, if_neg noControl]
    · exact noQuote
    · exact fun _ _ _ _ _ isBackslash => absurd isBackslash noBackslash
    · exact fun _ _ isBackslash => absurd isBackslash noBackslash

theorem inside?_quoted (content rest : List Char) :
    inside? (content.flatMap escape ++ '"' :: rest) = some (content, rest) := by
  induction content with
  | nil => rfl
  | cons char content ih =>
      rw [List.flatMap_cons, List.append_assoc, inside?_escape, ih]
      rfl

theorem lexeme?_quoted (text : String) (rest : List Char) :
    lexeme? (quoted text ++ rest) = some (.text text, rest) := by
  have inside := inside?_quoted text.toList rest
  simp only [quoted, List.cons_append, List.append_assoc, List.nil_append, lexeme?, inside,
    Option.map_some, String.ofList_toList]

/-! ## Numbers -/

theorem isWholePart_of_isWhole {whole : List Char} (isWhole : IsWhole whole) :
    isWholePart whole = true := by
  rcases isWhole.leads with rfl | ⟨first, more, rfl, noZero⟩
  · rfl
  · simp [isWholePart, noZero]

theorem places?_fractionText {places : List Char} (all : AllDigits places) (rest : List Char) :
    places? (fractionText places ++ 'e' :: rest) = some (places, 'e' :: rest) := by
  have run : IsRun Char.isDigit places ('e' :: rest) := ⟨all, by simp⟩
  rw [fractionText]
  cases places with
  | nil => rfl
  | cons first more =>
      simp only [List.isEmpty_cons, Bool.false_eq_true, if_false, List.cons_append, places?]
      rw [← List.cons_append, run.takeWhile_eq, run.dropWhile_eq]
      rfl

theorem digits?_toDigits (value : Nat) : digits? (Nat.toDigits 10 value) = some value := by
  have all : (Nat.toDigits 10 value).all Char.isDigit = true :=
    List.all_eq_true.mpr (Number.allDigits_toDigits value)
  simp [digits?, all, Number.digitsValue_toDigits, Nat.toDigits_ne_nil]

theorem exponent?_written (exponent : Int) :
    exponent? ('e' :: exponentSign exponent :: Nat.toDigits 10 exponent.natAbs) =
      some (some exponent) := by
  rw [exponent?, exponentSign]
  split
  · rename_i negative
    rw [signed?, digits?_toDigits, Option.map_some, Option.map_some]
    congr 2
    omega
  · rename_i positive
    rw [signed?, digits?_toDigits, Option.map_some, Option.map_some]
    congr 2
    omega

/-- A number is read part after part. -/
theorem numberParts?_append {whole rest places behind : List Char} {exponent : Option Int}
    (isWhole : IsWhole whole) (stops : ∀ char ∈ rest.head?, char.isDigit = false)
    (readPlaces : places? rest = some (places, behind))
    (readExponent : exponent? behind = some exponent) :
    numberParts? (whole ++ rest) = some ⟨whole, places, exponent⟩ := by
  have run : IsRun Char.isDigit whole rest := ⟨isWhole.all, stops⟩
  simp [numberParts?, run.takeWhile_eq, run.dropWhile_eq, isWholePart_of_isWhole isWhole,
    readPlaces, readExponent]

theorem numberParts?_toDigits (value : Nat) :
    numberParts? (Nat.toDigits 10 value) = some ⟨Nat.toDigits 10 value, [], none⟩ := by
  have stops : ∀ char ∈ ([] : List Char).head?, char.isDigit = false := by
    simp
  have parts := numberParts?_append (Number.isWhole_toDigits value) stops
    (rfl : places? [] = some ([], [])) rfl
  rwa [List.append_nil] at parts

/-- A numeral is read as the decimal that it stands for. -/
theorem numberParts?_numeral {text : List Char} {x : Decimal} (numeral : Numeral text x) :
    ∃ parts, numberParts? text = some parts ∧ parts.decimal = x ∧
      (!parts.places.isEmpty || parts.exponent?.isSome) = true := by
  cases numeral with
  | @positional whole places isWhole some all =>
      refine ⟨⟨whole, places, none⟩, ?_, ?_, ?_⟩
      · have run : IsRun Char.isDigit places [] := ⟨all, by simp⟩
        have readPlaces : places? ('.' :: places) = Option.some (places, []) := by
          have taken := run.takeWhile_eq
          have left := run.dropWhile_eq
          rw [List.append_nil] at taken left
          simp [places?, taken, left, some]
        exact numberParts?_append isWhole (by simp) readPlaces rfl
      · rw [NumberParts.decimal, Option.getD_none, Int.zero_sub]
      · simp [some]
  | @scientific whole places isWhole all exponent =>
      refine ⟨⟨whole, places, some exponent⟩, ?_, rfl, ?_⟩
      · rw [List.append_assoc]
        apply numberParts?_append isWhole
        · rw [fractionText]
          split <;> simp
        · exact places?_fractionText all _
        · exact exponent?_written exponent
      · simp

theorem number?_of_digit {first : Char} (digit : first.isDigit = true) (more : List Char) :
    number? (first :: more) =
      (numberParts? (first :: more)).bind (NumberParts.value? false) := by
  unfold number?
  split
  · rename_i same
    cases same
    cases digit
  · rfl

/-- A numeral with or without a sign is read as the double nearest to it. -/
theorem number?_numeral {text : List Char} {x : Decimal} (numeral : Numeral text x)
    (finite : x.magnitude < Number.infinityMagnitude) (negative : Bool) :
    number? ((if negative then ['-'] else []) ++ text) = some (.double (x.toDouble negative)) := by
  rcases numberParts?_numeral numeral with ⟨parts, readParts, isDecimal, notNatural⟩
  have isFinite : (x.toDouble negative).isFinite = true := decide_eq_true finite
  have value : parts.value? negative = some (.double (x.toDouble negative)) := by
    rw [NumberParts.value?, Bool.or_assoc, notNatural, Bool.or_true, if_pos rfl, isDecimal,
      if_pos isFinite]
  cases negative with
  | false =>
      rcases numeral.starts with ⟨first, more, rfl, digit⟩
      rw [if_neg Bool.false_ne_true, List.nil_append, number?_of_digit digit, readParts,
        Option.bind_some, value]
  | true => rw [if_pos rfl, List.singleton_append, number?, readParts, Option.bind_some, value]

theorem number?_toDigits (value : Nat) :
    number? (Nat.toDigits 10 value) = some (.natural value) := by
  rcases (Number.isWhole_toDigits value).starts with ⟨first, more, isText, digit⟩
  rw [isText, number?_of_digit digit, ← isText, numberParts?_toDigits]
  simp [NumberParts.value?, Number.digitsValue_toDigits]

/-! ## Leaves as lexemes -/

theorem lexeme?_null (rest : List Char) :
    lexeme? ("null".toList ++ rest) = some (.plain .null, rest) := rfl

/-- What follows a number cannot be part of it. -/
def Apart (rest : List Char) : Prop := ∀ char ∈ rest.head?, isNumberPart char = false

theorem lexeme?_of_number {first : Char} (starts : first.isDigit = true ∨ first = '-')
    (more : List Char) : lexeme? (first :: more) = numberLexeme? (first :: more) := by
  unfold lexeme?
  split
  iterate 8
    · rename_i same
      cases same
      exact absurd starts (by decide)
  · rfl

theorem lexeme?_number {text : List Char} {value : Json} (read : number? text = some value)
    (starts : ∃ first more, text = first :: more ∧ (first.isDigit = true ∨ first = '-'))
    (parts : ∀ char ∈ text, isNumberPart char = true) {rest : List Char} (apart : Apart rest) :
    lexeme? (text ++ rest) = some (.plain value, rest) := by
  have run : IsRun isNumberPart text rest := ⟨parts, apart⟩
  have readLexeme : numberLexeme? (text ++ rest) = some (.plain value, rest) := by
    rw [numberLexeme?, run.takeWhile_eq, run.dropWhile_eq, read]
    rfl
  rcases starts with ⟨first, more, rfl, starts⟩
  rw [List.cons_append] at readLexeme ⊢
  rw [lexeme?_of_number starts, readLexeme]

theorem isNumberPart_of_isNumeralPart {char : Char} (part : Number.isNumeralPart char = true) :
    isNumberPart char = true := by
  simp only [Number.isNumeralPart, isNumberPart, Bool.or_eq_true, decide_eq_true_eq, List.mem_cons,
    List.not_mem_nil, or_false] at part ⊢
  rcases part with digit | rfl | rfl | rfl | rfl <;> simp [*]

theorem lexeme?_natural (value : Nat) {rest : List Char} (apart : Apart rest) :
    lexeme? (Nat.toDigits 10 value ++ rest) = some (.plain (.natural value), rest) := by
  refine lexeme?_number (number?_toDigits value) ?_ ?_ apart
  · rcases (Number.isWhole_toDigits value).starts with ⟨first, more, isText, digit⟩
    exact ⟨first, more, isText, Or.inl digit⟩
  · intro char member
    apply isNumberPart_of_isNumeralPart
    exact (Number.allDigits_toDigits value).numeralParts char member

theorem lexeme?_double {value : Number.Double} (finite : value.isFinite = true) {rest : List Char}
    (apart : Apart rest) :
    lexeme? ((layout.finiteText value).toList ++ rest) = some (.plain (.double value), rest) := by
  have small : value.magnitude < Number.infinityMagnitude := of_decide_eq_true finite
  rcases layout.denotes_magnitudeText small with ⟨x, numeral, same⟩
  have isValue : x.toDouble value.negative = value := by
    cases value
    cases same
    rfl
  have read := number?_numeral numeral (same.symm ▸ small) value.negative
  rw [isValue] at read
  rw [Number.Layout.finiteText, String.toList_ofList]
  refine lexeme?_number read ?_ ?_ apart
  · cases value.negative with
    | false =>
        rcases numeral.starts with ⟨first, more, isText, digit⟩
        exact ⟨first, more, isText, Or.inl digit⟩
    | true => exact ⟨'-', _, rfl, Or.inr rfl⟩
  · intro char member
    rcases List.mem_append.mp member with sign | part
    · split at sign
      · rw [List.mem_singleton.mp sign]
        rfl
      · cases sign
    · exact isNumberPart_of_isNumeralPart (numeral.numeralParts char part)

/-- The number that is written is read, or null in its place. -/
theorem lexeme?_numberText (value : Number.Double) {rest : List Char} (apart : Apart rest) :
    lexeme? (numberText value ++ rest) =
      some (.plain (if value.isFinite then .double value else .null), rest) := by
  rw [numberText]
  split
  · rename_i finite
    exact lexeme?_double finite apart
  · exact lexeme?_null rest

end Json
end LoxTokenizer

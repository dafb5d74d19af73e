import LoxTokenizer.Proofs.Number.Text
import LoxTokenizer.Proofs.Scan.Genuine

namespace LoxTokenizer

open Number (AllDigits DenotesInPlaces)
open Scan

/-!
# Displayed numbers are numbers

A listing displays a number with its digits in their places and never with an exponent, which is how a
source spells numbers too.  So what is displayed can be scanned: it is one number and nothing else, and
it is the number displayed.  The digits are not those of the lexeme that was scanned.  Zeros of it are
left out, or a zero behind the point is put in, and digits that the double does not tell apart are
others or gone; but displaying the number again changes nothing any more.
-/

/-! ## Scanning a numeral alone -/

namespace Scan

/-- Digits and a point with digits behind it are a single piece. -/
theorem pieces_numeral {whole places : List Char} (some : whole ≠ []) (all : AllDigits whole)
    (somePlaces : places ≠ []) (allPlaces : AllDigits places) :
    pieces (whole ++ '.' :: places) =
      [⟨.token (.number (Number.numeralValue (whole ++ '.' :: places))),
        whole ++ '.' :: places⟩] := by
  cases whole with
  | nil => exact absurd rfl some
  | cons first digits =>
      rcases List.forall_mem_cons.mp all with ⟨digit, allDigits⟩
      have run : Text.IsRun Char.isDigit places [] := ⟨allPlaces, by simp⟩
      have cut := cutNumber_fraction first allDigits somePlaces run
      rw [List.append_nil] at cut
      rw [List.cons_append, pieces_cons, cutAt_of_isDigit _ digit, cut, pieces_nil]

/-- A source on one line that is a single token. -/
theorem scanText_token {text : List Char} {kind : Token.Kind}
    (alone : pieces text = [⟨.token kind, text⟩]) (oneLine : lineFeeds text = 0) :
    (scanText text).tokens =
        [⟨kind, String.ofList text, 1, ⟨0, Text.byteLength text⟩⟩,
          Token.endOfInput 1 (Text.byteLength text)] ∧
      (scanText text).errors = [] := by
  rw [scanText_eq, placedPieces, alone, TokenStream.finalToken, lineBehind, oneLine]
  exact ⟨rfl, rfl⟩

end Scan

/-! ## What is displayed -/

theorem Number.Double.isNaN_of_isFinite {value : Number.Double} (finite : value.isFinite = true) :
    value.isNaN = false :=
  decide_eq_false (Nat.lt_asymm (of_decide_eq_true finite))

namespace Literal

/-- A finite number that is not negative is displayed with its digits in their places. -/
theorem denotesInPlaces_display {value : Number.Double} (finite : value.isFinite = true)
    (positive : value.negative = false) :
    DenotesInPlaces (Literal.number value).display.toList value.magnitude := by
  have displayed : (Literal.number value).display.toList = layout.magnitudeText value.magnitude := by
    simp [display, Number.Double.isNaN_of_isFinite finite, finite, Number.Layout.finiteText, positive]
  rw [displayed]
  exact layout.denotesInPlaces_magnitudeText (fun _ => rfl) (of_decide_eq_true finite)

end Literal

/-- The display of a finite number in a scan is itself the source of that number: digits, a point and
digits, which are scanned as one token over all of them, with the same value and the same display. -/
theorem scan_displayed_number (source : String) {token : Token} {value : Number.Double}
    (member : token ∈ (scan source).tokens) (isNumber : token.kind = .number value)
    (finite : value.isFinite = true) :
    ∃ (text : String) (again : Token),
      token.literal?.map Literal.display = some text ∧
      (∃ whole places, text.toList = whole ++ '.' :: places ∧
        whole ≠ [] ∧ AllDigits whole ∧ places ≠ [] ∧ AllDigits places) ∧
      again = ⟨.number value, text, 1, ⟨0, text.utf8ByteSize⟩⟩ ∧
      (scan text).tokens = [again, Token.endOfInput 1 text.utf8ByteSize] ∧
      (scan text).errors = [] ∧
      again.literal?.map Literal.display = some text := by
  rcases (Token.genuine_of_mem_scan member).number isNumber with ⟨_, positive⟩
  have inPlaces := Literal.denotesInPlaces_display finite positive
  have isValue := inPlaces.numeralValue_eq positive
  rcases inPlaces with ⟨whole, places, divided, isWhole, some, all, _⟩
  rcases isWhole.starts with ⟨first, more, isText, _⟩
  have someWhole : whole ≠ [] := isText ▸ List.cons_ne_nil first more
  have alone := pieces_numeral someWhole isWhole.all some all
  have oneLine := lineFeeds_numeral isWhole.all all
  rw [← divided] at alone oneLine
  rw [isValue] at alone
  rcases scanText_token alone oneLine with ⟨tokens, errors⟩
  rw [String.ofList_toList, Text.byteLength_toList] at tokens
  refine ⟨(Literal.number value).display, _, ?_, ⟨whole, places, divided, someWhole, isWhole.all, some,
    all⟩, rfl, tokens, errors, rfl⟩
  rw [Token.literal?, isNumber]
  rfl

/-- Zeros of the lexeme are left out, on both sides. -/
theorem scan_displayed_number_tiny :
    (⟨.number (.ofRatio 1 10000000), "0000.00000010", 1, ⟨3, 16⟩⟩ : Token) ∈
      (scan "é 0000.00000010e5").tokens ∧
    (Number.Double.ofRatio 1 10000000).isFinite = true ∧
    (Literal.number (.ofRatio 1 10000000)).display = "0.0000001" ∧
    (scan "0.0000001").tokens =
      [⟨.number (.ofRatio 1 10000000), "0.0000001", 1, ⟨0, 9⟩⟩, Token.endOfInput 1 9] ∧
    (scan "0.0000001").errors = [] := by
  have member : (⟨.number (.ofRatio 1 10000000), "0000.00000010", 1, ⟨3, 16⟩⟩ : Token) ∈
      (scan "é 0000.00000010e5").tokens := by decide +kernel
  have finite : (Number.Double.ofRatio 1 10000000).isFinite = true := by decide +kernel
  have display : (Literal.number (.ofRatio 1 10000000)).display = "0.0000001" := by decide +kernel
  rcases scan_displayed_number "é 0000.00000010e5" member rfl finite with
    ⟨text, again, shown, _, rfl, tokens, errors, _⟩
  have isText : text = "0.0000001" := (Option.some.inj shown).symm.trans display
  subst isText
  exact ⟨member, finite, display, tokens, errors⟩

/-- Beyond what a double tells apart, the digits displayed are others than those of the lexeme. -/
example : (Literal.number (Number.numeralValue "99999999999999999999999".toList)).display =
    "99999999999999991611392.0" := by decide +kernel

end LoxTokenizer

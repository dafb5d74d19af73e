import LoxTokenizer.Proofs.Scan.Exchange

namespace LoxTokenizer

open Scan

/-!
# Where a source ends

Two things can be done to the end of a source.  It can be moved forward, to the end of some token:
then nothing in front of it changes, and what has been cut off is scanned as if it stood alone.  Or it
can be moved back, when more text is appended: then everything stays that has two characters of the
source behind it.

The two are not alike.  Breaking a source off behind a token changes nothing, because whatever kept
the token from going on does no more than the end of the source does.  Appending can change a token
that seemed complete: a mark that meets an equals sign, a name or a number that goes on, and a number
in front of a point that becomes a fraction.  The last of these is why one character is not enough.
-/

/-- Behind a token stand at least so many characters of a source. -/
def Token.IsFollowedBy (count : Nat) (source : String) (token : Token) : Prop :=
  ∃ behind ∈ Text.fromByte? token.span.stop source.toList, count ≤ behind.length

namespace Scan

theorem not_mem_errors_of_closed {text : List Char}
    (closed : ∀ piece ∈ pieces text, piece.role ≠ .openString) (line : Nat) :
    .unterminatedString line ∉ (scanText text).errors := by
  intro reported
  rcases List.any_eq_true.mp ((leavesOpen_iff text).mpr ⟨line, reported⟩) with ⟨piece, member, isOpen⟩
  exact closed piece member (of_decide_eq_true isOpen)

/-- Where the pieces up to a token end, the text divides in one way only. -/
theorem EndWith.unique {done : List Piece} {index : Nat} {token : Token} {rest front behind : List Char}
    (ends : EndWith done index token) (same : textOf done ++ rest = front ++ behind)
    (stop : Text.byteLength front = token.span.stop) : textOf done = front ∧ rest = behind := by
  have one := Text.splitAtByte?_append (textOf done) rest
  have other := Text.splitAtByte?_append front behind
  rw [ends.stop, same, ← stop, other] at one
  cases one
  exact ⟨rfl, rfl⟩

/-! ## Appending -/

/-- A token with two characters behind it is not affected by what follows those. -/
theorem getElem?_append_of_followed {source : String} {index : Nat} {token : Token}
    (here : (scan source).tokens[index]? = some token) (notLast : token.isEndOfInput = false)
    (followed : token.IsFollowedBy 2 source) (more : String) :
    (scan (source ++ more)).tokens[index]? = some token := by
  rcases exists_endWith here notLast with ⟨done, left, divided, ends⟩
  rcases followed with ⟨behind, found, two⟩
  have whole : source.toList = textOf done ++ textOf left := by
    rw [← textOf_append, ← divided, textOf_pieces]
  have isLeft : behind = textOf left := by
    rw [whole, Text.fromByte?, ← ends.stop, Text.splitAtByte?_append] at found
    cases found
    rfl
  rw [isLeft] at two
  have hold := (HoldBefore.of_divided divided).exchange ends.closed
    (BeginsLike.append two more.toList)
  rw [HoldBefore, ← List.append_assoc, ← whole, ← String.toList_append] at hold
  exact ends.getElem?_tokens hold

/-- A token with two characters of a front part behind it is a token of that part already. -/
theorem getElem?_of_append_followed {source more : String} {index : Nat} {token : Token}
    (here : (scan (source ++ more)).tokens[index]? = some token)
    (notLast : token.isEndOfInput = false) (followed : token.IsFollowedBy 2 source) :
    (scan source).tokens[index]? = some token := by
  rcases exists_endWith here notLast with ⟨done, left, divided, ends⟩
  rcases followed with ⟨behind, found, two⟩
  rcases Option.map_eq_some_iff.mp found with ⟨⟨front, remaining⟩, cut, rfl⟩
  rcases Text.splitAtByte?_eq_some cut with ⟨whole, stop⟩
  have same : textOf done ++ textOf left = front ++ (remaining ++ more.toList) := by
    rw [← textOf_append, ← divided, textOf_pieces, String.toList_append, ← whole, List.append_assoc]
  rcases ends.unique same stop with ⟨rfl, isLeft⟩
  have hold := HoldBefore.of_divided divided
  rw [isLeft] at hold
  have holdHere := hold.exchange ends.closed (BeginsLike.of_isPrefix (List.prefix_append _ _))
  rw [HoldBefore, whole] at holdHere
  exact ends.getElem?_tokens holdHere

/-- The pieces that have two characters behind them, and the others: one piece with at most one
character behind it. -/
theorem exists_settled (parts : List Piece) :
    ∃ settled unsettled, parts = settled ++ unsettled ∧
      (settled ≠ [] → 2 ≤ (textOf unsettled).length) ∧ (textOf unsettled.tail).length ≤ 1 := by
  induction parts with
  | nil => exact ⟨[], [], rfl, fun some => absurd rfl some, Nat.zero_le 1⟩
  | cons piece rest ih =>
      by_cases few : (textOf rest).length ≤ 1
      · exact ⟨[], piece :: rest, rfl, fun some => absurd rfl some, few⟩
      · rcases ih with ⟨settled, unsettled, rfl, two, small⟩
        refine ⟨piece :: settled, unsettled, rfl, fun _ => ?_, small⟩
        cases settled with
        | nil => exact Nat.lt_of_not_le few
        | cons next later => exact two (List.cons_ne_nil _ _)

/-- Settled pieces hold whatever is appended. -/
theorem holdBefore_append {text : List Char} {settled unsettled : List Piece}
    (divided : pieces text = settled ++ unsettled)
    (two : settled ≠ [] → 2 ≤ (textOf unsettled).length) (more : List Char) :
    (∀ piece ∈ settled, piece.role ≠ .openString) ∧
      HoldBefore settled (textOf unsettled ++ more) := by
  by_cases none : settled = []
  · rw [none]
    exact ⟨fun _ impossible => absurd impossible List.not_mem_nil, HoldBefore.nil _⟩
  · have some : unsettled ≠ [] := by
      rintro rfl
      exact absurd (two none) (by decide)
    have closed := ne_openString_of_append divided some
    exact ⟨closed, (HoldBefore.of_divided divided).exchange closed (BeginsLike.append (two none) more)⟩

theorem eq_append_of_divided {source : String} {done left : List Piece}
    (divided : pieces source.toList = done ++ left) :
    source = String.ofList (textOf done) ++ String.ofList (textOf left) := by
  rw [← String.ofList_append, ← textOf_append, ← divided, textOf_pieces, String.ofList_toList]

end Scan

/-- Appending text to a source affects only its end.  A token that has two characters of the source
behind it is found with more text appended if and only if it is found without, in the same place and
at the same number.  And the source has a front part that is scanned as if it stood alone, whatever is
appended behind; what is left of the source is one piece, with at most one character behind it. -/
theorem scan_append_settled (source : String) :
    (∀ (more : String) (index : Nat) (token : Token),
      token.isEndOfInput = false → token.IsFollowedBy 2 source →
        ((scan source).tokens[index]? = some token ↔
          (scan (source ++ more)).tokens[index]? = some token)) ∧
    ∃ front back : String, source = front ++ back ∧
      (textOf (pieces back.toList).tail).length ≤ 1 ∧
      ∀ more,
        (scan (source ++ more)).tokens =
          (scan front).tokens.dropLast ++ (scan (back ++ more)).tokens.map
            (Token.moved front.utf8ByteSize (front.toList.count '\n')) ∧
        (scan (source ++ more)).errors =
          (scan front).errors ++ (scan (back ++ more)).errors.map
            (ScanError.moved (front.toList.count '\n')) := by
  constructor
  · intro more index token notLast followed
    constructor
    · intro here
      exact getElem?_append_of_followed here notLast followed more
    · intro here
      exact getElem?_of_append_followed here notLast followed
  · rcases exists_settled (pieces source.toList) with ⟨settled, unsettled, divided, two, small⟩
    have whole := eq_append_of_divided divided
    refine ⟨_, _, whole, ?_, ?_⟩
    · rw [String.toList_ofList, HoldBefore.pieces_textOf_left divided]
      exact small
    · intro more
      rcases holdBefore_append divided two more.toList with ⟨closed, hold⟩
      have behind : (String.ofList (textOf unsettled) ++ more).toList =
          textOf unsettled ++ more.toList := by
        rw [String.toList_append, String.toList_ofList]
      rw [← behind] at hold
      have divides := hold.scan_append closed String.toList_ofList
      rwa [← String.append_assoc, ← whole] at divides

/-- Two points behind a number keep it from going on. -/
theorem scan_append_settled_points :
    (⟨.number (Number.numeralValue ['3']), "3", 1, ⟨0, 1⟩⟩ : Token).IsFollowedBy 2 "3.." ∧
      ((scan "3..").tokens[0]? = some ⟨.number (Number.numeralValue ['3']), "3", 1, ⟨0, 1⟩⟩ ↔
        (scan ("3.." ++ "5")).tokens[0]? =
          some ⟨.number (Number.numeralValue ['3']), "3", 1, ⟨0, 1⟩⟩) := by
  have followed :
      (⟨.number (Number.numeralValue ['3']), "3", 1, ⟨0, 1⟩⟩ : Token).IsFollowedBy 2 "3.." :=
    ⟨['.', '.'], by decide +kernel, by decide⟩
  exact ⟨followed, (scan_append_settled "3..").1 "5" 0 _ rfl followed⟩

/-- One character behind a token is not enough: the number in front of a point goes on. -/
example : (scan "3.").tokens[0]? ≠ (scan ("3." ++ "5")).tokens[0]? := by decide +kernel

/-- A source can be broken off behind any token.  The front part ends with that token and leaves no
string open, and the scan of the source is the scan of the front part, up to its end of input, and then
the scan of what is behind, moved by the bytes and line feeds in front of it. -/
theorem scan_broken_off (source : String) (token : Token) (member : token ∈ (scan source).tokens)
    (notLast : token.isEndOfInput = false) :
    ∃ front behind : String, source = front ++ behind ∧ front.utf8ByteSize = token.span.stop ∧
      (∀ line, .unterminatedString line ∉ (scan front).errors) ∧
      (∃ earlier, (scan front).tokens =
        earlier ++ [token, Token.endOfInput (1 + front.toList.count '\n') front.utf8ByteSize]) ∧
      (scan source).tokens =
        (scan front).tokens.dropLast ++ (scan behind).tokens.map
          (Token.moved front.utf8ByteSize (front.toList.count '\n')) ∧
      (scan source).errors =
        (scan front).errors ++ (scan behind).errors.map
          (ScanError.moved (front.toList.count '\n')) := by
  rcases List.mem_iff_getElem?.mp member with ⟨index, here⟩
  rcases exists_endWith here notLast with ⟨done, left, divided, ends⟩
  have whole := eq_append_of_divided divided
  have hold := HoldBefore.of_divided divided
  have alone : pieces (String.ofList (textOf done)).toList = done := by
    rw [String.toList_ofList, hold.pieces_textOf ends.closed]
  rw [← String.toList_ofList (l := textOf left)] at hold
  have divides := hold.scan_append ends.closed String.toList_ofList
  rw [← whole] at divides
  refine ⟨_, _, whole, ?_, ?_, ?_, divides⟩
  · rw [Text.utf8ByteSize_ofList, ends.stop]
  · intro line
    apply not_mem_errors_of_closed
    rw [alone]
    exact ends.closed
  · rcases ends.tokens with ⟨earlier, tokens, _⟩
    refine ⟨earlier, ?_⟩
    rw [scan, scanText_eq, placedPieces, alone, tokens, List.append_assoc, TokenStream.finalToken,
      Text.byteLength_toList]
    rfl

/-- Behind a string of two lines, in front of a point and of a rejected character. -/
theorem scan_broken_off_string :
    (⟨.string "\n", "\"\n\"", 1, ⟨1, 4⟩⟩ : Token) ∈ (scan "3\"\n\".5@").tokens ∧
    (⟨.string "\n", "\"\n\"", 1, ⟨1, 4⟩⟩ : Token).isEndOfInput = false ∧
    ∃ front behind : String, "3\"\n\".5@" = front ++ behind ∧ front.utf8ByteSize = 4 ∧
      (scan "3\"\n\".5@").tokens =
        (scan front).tokens.dropLast ++ (scan behind).tokens.map
          (Token.moved front.utf8ByteSize (front.toList.count '\n')) ∧
      (scan "3\"\n\".5@").errors =
        (scan front).errors ++ (scan behind).errors.map
          (ScanError.moved (front.toList.count '\n')) := by
  have member : (⟨.string "\n", "\"\n\"", 1, ⟨1, 4⟩⟩ : Token) ∈ (scan "3\"\n\".5@").tokens := by
    decide +kernel
  have notLast : (⟨.string "\n", "\"\n\"", 1, ⟨1, 4⟩⟩ : Token).isEndOfInput = false := by decide
  rcases scan_broken_off _ _ member notLast with
    ⟨front, behind, whole, stop, _, _, tokens, errors⟩
  exact ⟨member, notLast, front, behind, whole, stop, tokens, errors⟩

end LoxTokenizer

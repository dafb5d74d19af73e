import LoxTokenizer.Proofs.Scan.Lookahead
import LoxTokenizer.Proofs.Scan.Rejection

namespace LoxTokenizer

open Scan

/-!
# Comments and rejected characters blanked out

What makes no token may as well be blank.  Comments and rejected characters are replaced here by as
many spaces as they have bytes, so that nothing behind them moves; none of them has a line feed, so no
line moves either.  A lexeme in front of such a character stopped there, and it stops in front of a
space.

The two runs are compared piece by piece.  Their texts differ, but the pieces that are kept stand in
places of the same offset and the same line.
-/

namespace Scan

def spacesFor (text : List Char) : List Char :=
  text.flatMap fun char => List.replicate char.utf8Size ' '

/-- Neither a token nor a blank, and not the string that the source leaves open either. -/
def Role.isRemark : Role → Bool
  | .comment | .stray => true
  | .token _ | .blank | .openString => false

def Piece.blankedText (piece : Piece) : List Char :=
  if piece.role.isRemark then spacesFor piece.text else piece.text

/-- A text without its comments and rejected characters, whose places are left blank. -/
def blankedOut (parts : List Piece) : List Char := parts.flatMap Piece.blankedText

/-- The pieces that come of a piece when it is blanked out. -/
def Piece.blanked (piece : Piece) : List Piece :=
  if piece.role.isRemark then blankPieces (spacesFor piece.text) else [piece]

/-! ## Spaces -/

theorem allBlank_spacesFor (text : List Char) : AllBlank (spacesFor text) := by
  intro char member
  rcases List.mem_flatMap.mp member with ⟨_, _, among⟩
  rw [List.eq_of_mem_replicate among]
  decide

theorem byteLength_replicate_space (count : Nat) :
    Text.byteLength (List.replicate count ' ') = count := by
  induction count with
  | zero => rfl
  | succ count ih =>
      have size : ' '.utf8Size = 1 := by decide
      rw [List.replicate_succ, Text.byteLength_cons, ih, size, Nat.add_comm]

theorem byteLength_spacesFor (text : List Char) :
    Text.byteLength (spacesFor text) = Text.byteLength text := by
  induction text with
  | nil => rfl
  | cons char rest ih =>
      rw [spacesFor, List.flatMap_cons, Text.byteLength_append, byteLength_replicate_space,
        Text.byteLength_cons]
      exact congrArg (char.utf8Size + ·) ih

theorem lineFeeds_spacesFor (text : List Char) : lineFeeds (spacesFor text) = 0 := by
  apply List.count_eq_zero.mpr
  intro member
  rcases List.mem_flatMap.mp member with ⟨_, _, among⟩
  exact absurd (List.eq_of_mem_replicate among) (by decide)

/-- A character is replaced by some space at least. -/
theorem head?_spacesFor {text : List Char} (some : text ≠ []) :
    (spacesFor text).head? = Option.some ' ' := by
  cases text with
  | nil => exact absurd rfl some
  | cons char rest =>
      obtain ⟨count, size⟩ : ∃ count, char.utf8Size = count + 1 :=
        ⟨char.utf8Size - 1, by have := char.utf8Size_pos; omega⟩
      rw [spacesFor, List.flatMap_cons, size, List.replicate_succ]
      rfl

/-! ## The pieces of a blanked text -/

section

variable (first : Char) (following : List Char)

theorem blankedOut_of_remark (remark : (cutAt first following).role.isRemark = true) :
    blankedOut (pieces (first :: following)) =
      spacesFor (first :: (cutAt first following).more) ++
        blankedOut (pieces (cutAt first following).rest) := by
  rw [pieces_cons, blankedOut, List.flatMap_cons, Piece.blankedText, if_pos remark]
  rfl

theorem blankedOut_of_kept (kept : (cutAt first following).role.isRemark = false) :
    blankedOut (pieces (first :: following)) =
      first :: ((cutAt first following).more ++
        blankedOut (pieces (cutAt first following).rest)) := by
  rw [pieces_cons, blankedOut, List.flatMap_cons, Piece.blankedText, kept]
  rfl

end

/-- A blanked text starts with a space or as the text does. -/
theorem head?_blankedOut (text : List Char) :
    ∀ char ∈ (blankedOut (pieces text)).head?, char = ' ' ∨ text.head? = some char := by
  intro char starts
  cases text with
  | nil =>
      rw [pieces_nil] at starts
      cases starts
  | cons first following =>
      cases remark : (cutAt first following).role.isRemark with
      | true =>
          rw [blankedOut_of_remark first following remark, List.head?_append,
            head?_spacesFor (List.cons_ne_nil _ _)] at starts
          cases starts
          exact Or.inl rfl
      | false =>
          rw [blankedOut_of_kept first following remark] at starts
          exact Or.inr starts

/-- A point is a piece of its own, so a digit behind it that is there after the blanking was there
before. -/
theorem startsFraction_of_blankedOut {text : List Char}
    (starts : StartsFraction (blankedOut (pieces text))) : StartsFraction text := by
  rcases starts with ⟨place, more, divided, digit⟩
  cases text with
  | nil =>
      rw [pieces_nil] at divided
      cases divided
  | cons first following =>
      have point : first = '.' := by
        have head := head?_blankedOut (first :: following) '.' (by rw [divided]; rfl)
        rcases head with space | same
        · exact absurd space (by decide)
        · exact Option.some.inj same
      subst point
      have sole : soleMark? '.' = some .dot := rfl
      have cut := cutAt_of_soleMark following sole
      have kept : (cutAt '.' following).role.isRemark = false := by
        rw [cut]
        rfl
      rw [blankedOut_of_kept '.' following kept, cut] at divided
      have behind : blankedOut (pieces following) = place :: more := (List.cons.inj divided).2
      have head := head?_blankedOut following place (by rw [behind]; rfl)
      rcases head with rfl | same
      · exact absurd digit (by decide)
      · rcases List.head?_eq_some_iff.mp same with ⟨rest, rfl⟩
        exact ⟨place, rest, rfl, digit⟩

theorem stopsLike_blankedOut (rest : List Char) :
    StopsLike rest (blankedOut (pieces rest)) where
  next := by
    intro char starts
    rcases head?_blankedOut rest char starts with rfl | same
    · exact Or.inl (by decide)
    · exact Or.inr same
  fraction := startsFraction_of_blankedOut

/-- Blanking out turns comments and rejected characters into blanks, and every other piece is cut
off as before. -/
theorem pieces_blankedOut (text : List Char) :
    pieces (blankedOut (pieces text)) = (pieces text).flatMap Piece.blanked := by
  induction text using pieces.induct with
  | case1 => simp [blankedOut]
  | case2 first following ih =>
      cases remark : (cutAt first following).role.isRemark with
      | true =>
          rw [blankedOut_of_remark first following remark,
            pieces_blank_append (allBlank_spacesFor _), ih, pieces_cons first following,
            List.flatMap_cons, Piece.blanked, if_pos remark]
      | false =>
          have cut : cutAt first ((cutAt first following).more ++
              blankedOut (pieces (cutAt first following).rest)) =
                { cutAt first following with
                  rest := blankedOut (pieces (cutAt first following).rest) } := by
            by_cases isOpen : (cutAt first following).role = .openString
            · -- Nothing is left behind an open string, so nothing of the text is exchanged.
              have unchanged : blankedOut (pieces (cutAt first following).rest) =
                  (cutAt first following).rest := by
                rw [rest_of_openString isOpen, pieces_nil]
                rfl
              rw [unchanged, cutAt_append]
            · apply cutAt_more_append isOpen
              · intro comment
                rw [comment] at remark
                cases remark
              · exact stopsLike_blankedOut _
          rw [blankedOut_of_kept first following remark, pieces_cons, cut, ih,
            pieces_cons first following, List.flatMap_cons, Piece.blanked, remark]
          rfl

/-! ## Places -/

/-- Two texts that leave off at the same offset and on the same line. -/
structure SamePlace (before other : List Char) : Prop where
  bytes : Text.byteLength before = Text.byteLength other
  lines : lineFeeds before = lineFeeds other

namespace SamePlace

variable {before other : List Char}

theorem append (same : SamePlace before other) {text blanked : List Char}
    (sameBehind : SamePlace text blanked) : SamePlace (before ++ text) (other ++ blanked) where
  bytes := by rw [Text.byteLength_append, Text.byteLength_append, same.bytes, sameBehind.bytes]
  lines := by rw [lineFeeds_append, lineFeeds_append, same.lines, sameBehind.lines]

theorem lineBehind_eq (same : SamePlace before other) : lineBehind before = lineBehind other :=
  congrArg (1 + ·) same.lines

theorem append_self (same : SamePlace before other) (text : List Char) :
    SamePlace (before ++ text) (other ++ text) :=
  same.append ⟨rfl, rfl⟩

theorem token?_eq (same : SamePlace before other) (piece : Piece) :
    Placed.token? ⟨before, piece⟩ = Placed.token? ⟨other, piece⟩ := by
  rw [Placed.token?, Placed.token?, Placed.line, Placed.line, Placed.span, Placed.span]
  rw [same.lineBehind_eq, same.bytes, (same.append_self piece.text).bytes]

theorem error?_eq (same : SamePlace before other) (piece : Piece) :
    Placed.error? ⟨before, piece⟩ = Placed.error? ⟨other, piece⟩ := by
  rcases piece with ⟨role, text⟩
  cases role with
  | stray =>
      cases text with
      | nil => rfl
      | cons character _ =>
          exact congrArg (fun line => some (ScanError.unexpectedCharacter line character))
            same.lineBehind_eq
  | openString =>
      exact congrArg (fun line => some (ScanError.unterminatedString line))
        (same.append_self text).lineBehind_eq
  | token kind => rfl
  | blank => rfl
  | comment => rfl

end SamePlace

/-- Neither a comment nor a rejected character has a line feed in it. -/
theorem not_mem_of_isRemark {text : List Char} {piece : Piece} (member : piece ∈ pieces text)
    (remark : piece.role.isRemark = true) : '\n' ∉ piece.text := by
  rcases exists_cutAt_of_mem_pieces member with ⟨first, following, rfl⟩
  rcases spells_cutAt first following with isStray | spells
  · intro inside
    rw [isStray, Cut.piece, List.mem_singleton] at inside
    subst inside
    rw [cutAt_of_isBlank following (by decide)] at isStray
    cases isStray
  · have comment : (cutAt first following).role = .comment := by
      change (cutAt first following).role.isRemark = true at remark
      generalize (cutAt first following).role = role at spells remark ⊢
      generalize first :: (cutAt first following).more = text at spells
      generalize (cutAt first following).rest = rest at spells
      cases spells <;> first | rfl | cases remark
    exact (of_comment comment).1

theorem samePlace_spacesFor {text : List Char} (oneLine : '\n' ∉ text) :
    SamePlace (spacesFor text) text where
  bytes := byteLength_spacesFor text
  lines := (lineFeeds_spacesFor text).trans (List.count_eq_zero.mpr oneLine).symm

/-- A blanked text is as long as the text and has as many lines. -/
theorem samePlace_blankedOut {parts : List Piece}
    (oneLine : ∀ piece ∈ parts, piece.role.isRemark = true → '\n' ∉ piece.text) :
    SamePlace (blankedOut parts) (textOf parts) := by
  induction parts with
  | nil => exact ⟨rfl, rfl⟩
  | cons piece rest ih =>
      rcases List.forall_mem_cons.mp oneLine with ⟨oneLineHere, oneLineLater⟩
      have here : SamePlace piece.blankedText piece.text := by
        unfold Piece.blankedText
        split
        · rename_i remark
          exact samePlace_spacesFor (oneLineHere remark)
        · exact ⟨rfl, rfl⟩
      exact here.append (ih oneLineLater)

theorem textOf_blankPieces (gap : List Char) : textOf (blankPieces gap) = gap := by
  induction gap with
  | nil => rfl
  | cons char gap ih => exact congrArg (char :: ·) ih

theorem tokensOf_blankPieces (before gap : List Char) :
    tokensOf (layOut before (blankPieces gap)) = [] := by
  induction gap generalizing before with
  | nil => rfl
  | cons char gap ih => exact ih (before ++ [char])

theorem errorsOf_blankPieces (before gap : List Char) :
    errorsOf (layOut before (blankPieces gap)) = [] := by
  induction gap generalizing before with
  | nil => rfl
  | cons char gap ih => exact ih (before ++ [char])

/-- A remark is no token, and its only error is a rejection. -/
theorem of_isRemark {placed : Placed} (remark : placed.piece.role.isRemark = true) :
    tokensOf [placed] = [] ∧ (errorsOf [placed]).filter ScanError.isUnterminated = [] := by
  rcases placed with ⟨before, role, text⟩
  cases role with
  | comment => exact ⟨rfl, rfl⟩
  | stray =>
      constructor
      · rfl
      · cases text <;> rfl
  | token kind => cases remark
  | blank => cases remark
  | openString => cases remark

/-- Whatever else is wrong with a piece is an open string. -/
theorem filter_errorsOf_of_kept {placed : Placed} (kept : placed.piece.role.isRemark = false) :
    (errorsOf [placed]).filter ScanError.isUnterminated = errorsOf [placed] := by
  rcases placed with ⟨before, role, text⟩
  cases role with
  | comment => cases kept
  | stray => cases kept
  | token kind => rfl
  | blank => rfl
  | openString => rfl

/-- The pieces of a blanked text are the same tokens in the same places, and only rejections are
missing from their errors. -/
theorem layOut_blanked {before other : List Char} (same : SamePlace before other)
    {parts : List Piece}
    (oneLine : ∀ piece ∈ parts, piece.role.isRemark = true → '\n' ∉ piece.text) :
    tokensOf (layOut before (parts.flatMap Piece.blanked)) = tokensOf (layOut other parts) ∧
      errorsOf (layOut before (parts.flatMap Piece.blanked)) =
        (errorsOf (layOut other parts)).filter ScanError.isUnterminated := by
  induction parts generalizing before other with
  | nil => exact ⟨rfl, rfl⟩
  | cons piece rest ih =>
      rcases List.forall_mem_cons.mp oneLine with ⟨oneLineHere, oneLineLater⟩
      rw [List.flatMap_cons, layOut_append, layOut_cons other, tokensOf_append, tokensOf_append,
        errorsOf_append, errorsOf_append, List.filter_append]
      cases remark : piece.role.isRemark with
      | true =>
          have spaces := samePlace_spacesFor (oneLineHere remark)
          rcases ih (same.append spaces) oneLineLater with ⟨tokens, errors⟩
          rcases @of_isRemark ⟨other, piece⟩ remark with ⟨noToken, noError⟩
          rw [Piece.blanked, if_pos remark, textOf_blankPieces, tokensOf_blankPieces,
            errorsOf_blankPieces, tokens, errors, noToken, noError]
          exact ⟨rfl, rfl⟩
      | false =>
          rcases ih (same.append_self piece.text) oneLineLater with ⟨tokens, errors⟩
          have sameErrors : errorsOf [⟨before, piece⟩] = errorsOf [⟨other, piece⟩] := by
            rw [errorsOf, errorsOf, List.filterMap_cons, List.filterMap_cons, same.error?_eq]
          have sameTokens : tokensOf [⟨before, piece⟩] = tokensOf [⟨other, piece⟩] := by
            rw [tokensOf, tokensOf, List.filterMap_cons, List.filterMap_cons, same.token?_eq]
          rw [Piece.blanked, remark, filter_errorsOf_of_kept remark, ← sameErrors, ← sameTokens,
            ← errors, ← tokens]
          simp [layOut]

end Scan

/-- Comments and rejected characters are transparent.  Take the pieces of a source, whose errors are
the errors of its scan, and leave blank the places of comments and rejected characters: the scan then
gives the very same tokens, lines and spans included, and of the errors there is left the one of an
open string, if there was one, on its line. -/
theorem scan_blankedOut (source : String) :
    ∃ parts,
      (∀ others, LongestCut source.toList others ↔ others = parts) ∧
      (scan source).errors = errorsOf (layOut [] parts) ∧
      (scan (String.ofList (blankedOut parts))).tokens = (scan source).tokens ∧
      (scan (String.ofList (blankedOut parts))).errors =
        (scan source).errors.filter ScanError.isUnterminated := by
  have oneLine : ∀ piece ∈ pieces source.toList,
      piece.role.isRemark = true → '\n' ∉ piece.text :=
    fun _ member => not_mem_of_isRemark member
  have sameEnd := samePlace_blankedOut oneLine
  rw [textOf_pieces] at sameEnd
  rcases layOut_blanked ⟨rfl, rfl⟩ oneLine with ⟨tokens, errors⟩
  refine ⟨pieces source.toList, ?_, ?_, ?_, ?_⟩
  · intro others
    constructor
    · exact LongestCut.eq_pieces
    · rintro rfl
      exact longestCut_pieces source.toList
  · rw [scan, scanText_eq, placedPieces]
  · have sameFinal : TokenStream.finalToken (blankedOut (pieces source.toList)) =
        TokenStream.finalToken source.toList := by
      rw [TokenStream.finalToken, TokenStream.finalToken, sameEnd.lineBehind_eq, sameEnd.bytes]
    rw [scan, scan, String.toList_ofList, scanText_eq, scanText_eq, placedPieces, placedPieces,
      pieces_blankedOut, sameFinal]
    exact congrArg (· ++ _) tokens
  · rw [scan, scan, String.toList_ofList, scanText_eq, scanText_eq, placedPieces, placedPieces,
      pieces_blankedOut]
    exact errors

/-- Rejected characters between tokens, one of them of two bytes, and a quote in a comment. -/
example : blankedOut (pieces "1@é+//\"\nx".toList) = "1   +   \nx".toList := by decide +kernel

end LoxTokenizer

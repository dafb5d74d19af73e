import LoxTokenizer.Scan.Error
import LoxTokenizer.Proofs.Scan.Piece
import LoxTokenizer.Text.Bytes
import LoxTokenizer.Token.Basic

namespace LoxTokenizer
namespace Scan

/-!
# Pieces in their places

A list of pieces is laid out along a text, and each piece then knows the text before it.  Its byte
offset and its line are read off that text and are not counted along the way: this is what the
scan is compared with, and it keeps no counters that could go wrong.  Tokens and errors are read off
piece by piece.
-/

def lineFeeds (text : List Char) : Nat := text.count '\n'

/-- The line, counted from one, of what stands behind a text. -/
def lineBehind (text : List Char) : Nat := 1 + lineFeeds text

@[simp] theorem lineFeeds_append (first second : List Char) :
    lineFeeds (first ++ second) = lineFeeds first + lineFeeds second :=
  List.count_append

theorem lineBehind_append (before text : List Char) :
    lineBehind (before ++ text) = lineBehind before + lineFeeds text := by
  simp [lineBehind, Nat.add_assoc]

/-- A piece and the text before it. -/
structure Placed where
  before : List Char
  piece : Piece

/-- Lays pieces out behind a text, each behind the one before it. -/
def layOut (before : List Char) : List Piece → List Placed
  | [] => []
  | piece :: rest => ⟨before, piece⟩ :: layOut (before ++ piece.text) rest

def placedPieces (text : List Char) : List Placed := layOut [] (pieces text)

/-- The text that pieces are pieces of. -/
def textOf (parts : List Piece) : List Char := (parts.map Piece.text).flatten

@[simp] theorem textOf_nil : textOf [] = [] := rfl

@[simp] theorem textOf_cons (piece : Piece) (rest : List Piece) :
    textOf (piece :: rest) = piece.text ++ textOf rest := rfl

@[simp] theorem textOf_append (first second : List Piece) :
    textOf (first ++ second) = textOf first ++ textOf second := by
  simp [textOf]

theorem textOf_pieces (text : List Char) : textOf (pieces text) = text := flatten_pieces text

namespace Placed

def line (placed : Placed) : Nat := lineBehind placed.before

def span (placed : Placed) : Span :=
  ⟨Text.byteLength placed.before, Text.byteLength (placed.before ++ placed.piece.text)⟩

/-- The token that a piece is, if it is one. -/
def token? (placed : Placed) : Option Token :=
  match placed.piece.role with
  | .token kind => some
      { kind
        lexeme := String.ofList placed.piece.text
        line := placed.line
        span := placed.span }
  | _ => none

/-- The error that a piece gives rise to, if it does.  A stray character is reported where it
stands, an open string where it ends. -/
def error? (placed : Placed) : Option ScanError :=
  match placed.piece.role, placed.piece.text with
  | .stray, character :: _ => some (.unexpectedCharacter placed.line character)
  | .openString, text => some (.unterminatedString (lineBehind (placed.before ++ text)))
  | _, _ => none

end Placed

def tokensOf (placed : List Placed) : List Token := placed.filterMap Placed.token?

def errorsOf (placed : List Placed) : List ScanError := placed.filterMap Placed.error?

@[simp] theorem tokensOf_append (first second : List Placed) :
    tokensOf (first ++ second) = tokensOf first ++ tokensOf second :=
  List.filterMap_append

@[simp] theorem errorsOf_append (first second : List Placed) :
    errorsOf (first ++ second) = errorsOf first ++ errorsOf second :=
  List.filterMap_append

@[simp] theorem layOut_nil (before : List Char) : layOut before [] = [] := rfl

theorem layOut_cons (before : List Char) (piece : Piece) (rest : List Piece) :
    layOut before (piece :: rest) =
      [⟨before, piece⟩] ++ layOut (before ++ piece.text) rest := rfl

theorem map_piece_layOut (before : List Char) (parts : List Piece) :
    (layOut before parts).map Placed.piece = parts := by
  induction parts generalizing before with
  | nil => rfl
  | cons piece rest ih => simp [layOut, ih]

/-- Pieces laid out behind others start where those stop. -/
theorem layOut_append (before : List Char) (first second : List Piece) :
    layOut before (first ++ second) =
      layOut before first ++ layOut (before ++ textOf first) second := by
  induction first generalizing before with
  | nil => simp [layOut]
  | cons piece rest ih => simp [layOut, ih]

/-- What stands before a placed piece is the text of the pieces before it. -/
theorem exists_of_mem_layOut {before : List Char} {parts : List Piece} {placed : Placed}
    (member : placed ∈ layOut before parts) :
    ∃ earlier later, parts = earlier ++ placed.piece :: later ∧
      placed.before = before ++ textOf earlier := by
  induction parts generalizing before with
  | nil => cases member
  | cons piece rest ih =>
      rcases List.mem_cons.mp member with rfl | behind
      · exact ⟨[], rest, rfl, by simp⟩
      · rcases ih behind with ⟨earlier, later, rfl, stands⟩
        exact ⟨piece :: earlier, later, rfl, by simp [stands]⟩

theorem isPrefix_of_mem_layOut {before : List Char} {parts : List Piece} {placed : Placed}
    (member : placed ∈ layOut before parts) : before <+: placed.before := by
  rcases exists_of_mem_layOut member with ⟨earlier, later, divided, stands⟩
  exact ⟨textOf earlier, stands.symm⟩

theorem text_isPrefix_of_mem_layOut {before : List Char} {parts : List Piece} {placed : Placed}
    (member : placed ∈ layOut before parts) :
    placed.before ++ placed.piece.text <+: before ++ textOf parts := by
  rcases exists_of_mem_layOut member with ⟨earlier, later, rfl, stands⟩
  exact ⟨textOf later, by simp [stands]⟩

/-- Each piece stands behind all earlier ones. -/
theorem pairwise_layOut (before : List Char) (parts : List Piece) :
    (layOut before parts).Pairwise
      (fun first second => first.before ++ first.piece.text <+: second.before) := by
  induction parts generalizing before with
  | nil => exact List.Pairwise.nil
  | cons piece rest ih =>
      refine List.Pairwise.cons ?_ (ih _)
      intro later member
      exact isPrefix_of_mem_layOut member

end Scan
end LoxTokenizer

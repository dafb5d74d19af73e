import LoxTokenizer.Proofs.Scan.Lookahead
import LoxTokenizer.Proofs.Scan.Rejection

namespace LoxTokenizer

open Scan

/-!
# Scanning line by line

A line feed outside a string ends whatever stands before it just as the end of the source does: no
mark, number or name takes it in, and a comment stops in front of it.  So a source that is not left
inside a string is cut in the same way whether it ends there or goes on behind a line feed, and what
goes on is cut as if it stood alone.  Its tokens and errors are only moved, by the bytes and the line
feeds in front of it.
-/

/-- A token as it is with more bytes and more lines in front of it. -/
def Token.moved (bytes lines : Nat) (token : Token) : Token :=
  { token with
    line := token.line + lines
    span := ⟨token.span.start + bytes, token.span.stop + bytes⟩ }

/-- An error as it is with more lines in front of it. -/
def ScanError.moved (lines : Nat) : ScanError → ScanError
  | .unexpectedCharacter line character => .unexpectedCharacter (line + lines) character
  | .unterminatedString line => .unterminatedString (line + lines)

namespace Scan

/-! ## Cuts in front of a line feed -/

/-- What stops in front of a text, or where it ends, stops when a line feed and more follow it. -/
theorem StopsLike.append_lineFeed (rest behind : List Char) :
    StopsLike rest (rest ++ '\n' :: behind) where
  next := by
    intro char starts
    cases rest with
    | nil =>
        cases starts
        exact Or.inl (by decide)
    | cons first more => exact Or.inr starts
  fraction := by
    rintro ⟨place, more, divided, digit⟩
    rcases rest with _ | ⟨point, _ | ⟨next, text⟩⟩
    · cases divided
    · cases divided
      exact absurd digit (by decide)
    · cases divided
      exact ⟨place, text, rfl, digit⟩

/-- A cut that leaves no string open is the same with a line feed behind the text. -/
theorem cutAt_append_lineFeed {first : Char} {following : List Char}
    (closed : (cutAt first following).role ≠ .openString) (behind : List Char) :
    cutAt first (following ++ '\n' :: behind) =
      { cutAt first following with rest := (cutAt first following).rest ++ '\n' :: behind } := by
  have oneLine : (cutAt first following).role = .comment →
      ∀ char ∈ ((cutAt first following).rest ++ '\n' :: behind).head?, char = '\n' := by
    intro comment char starts
    have ended := (of_comment comment).2
    cases rest : (cutAt first following).rest with
    | nil =>
        rw [rest] at starts
        cases starts
        rfl
    | cons next more =>
        rw [rest] at starts ended
        exact ended char starts
  have stops := StopsLike.append_lineFeed (cutAt first following).rest behind
  have cut := cutAt_more_append closed oneLine stops
  rwa [← List.append_assoc, cutAt_append] at cut

/-- A text that leaves no string open is cut line by line. -/
theorem pieces_append_lineFeed {text : List Char} (closed : leavesOpen text = false)
    (behind : List Char) :
    pieces (text ++ '\n' :: behind) = pieces text ++ ⟨.blank, ['\n']⟩ :: pieces behind := by
  induction text using pieces.induct with
  | case1 =>
      have blank : isBlank '\n' = true := by decide
      rw [List.nil_append, pieces_cons, pieces_nil, List.nil_append, cutAt_of_isBlank behind blank]
  | case2 first following ih =>
      rw [leavesOpen, pieces_cons, List.any_cons, Bool.or_eq_false_iff] at closed
      rcases closed with ⟨closedHere, closedLater⟩
      have cut := cutAt_append_lineFeed (of_decide_eq_false closedHere) behind
      rw [List.cons_append, pieces_cons, pieces_cons, cut, ih closedLater, List.cons_append]

/-! ## Pieces behind a text -/

/-- A piece as it is with more text in front of it. -/
def Placed.behind (outer : List Char) (placed : Placed) : Placed :=
  ⟨outer ++ placed.before, placed.piece⟩

theorem layOut_behind (outer before : List Char) (parts : List Piece) :
    layOut (outer ++ before) parts = (layOut before parts).map (Placed.behind outer) := by
  induction parts generalizing before with
  | nil => rfl
  | cons piece rest ih =>
      rw [layOut, layOut, List.map_cons, List.append_assoc, ih]
      rfl

theorem lineBehind_outer (outer before : List Char) :
    lineBehind (outer ++ before) = lineBehind before + lineFeeds outer := by
  simp only [lineBehind, lineFeeds_append]
  omega

/-- A token with more text in front of it is only moved. -/
theorem Placed.token?_behind (outer : List Char) (placed : Placed) :
    (placed.behind outer).token? =
      placed.token?.map (Token.moved (Text.byteLength outer) (lineFeeds outer)) := by
  rcases placed with ⟨before, role, text⟩
  cases role with
  | token kind =>
      simp [Placed.token?, Placed.behind, Placed.line, Placed.span, Token.moved, lineBehind_outer,
        Nat.add_comm]
  | blank => rfl
  | comment => rfl
  | openString => rfl
  | stray => rfl

/-- An error with more text in front of it is only moved. -/
theorem Placed.error?_behind (outer : List Char) (placed : Placed) :
    (placed.behind outer).error? = placed.error?.map (ScanError.moved (lineFeeds outer)) := by
  rcases placed with ⟨before, role, text⟩
  cases role with
  | token kind => rfl
  | blank => rfl
  | comment => rfl
  | openString =>
      simp [Placed.error?, Placed.behind, ScanError.moved, lineBehind_outer]
  | stray =>
      cases text with
      | nil => rfl
      | cons character behind =>
          simp [Placed.error?, Placed.behind, Placed.line, ScanError.moved, lineBehind_outer]

theorem tokensOf_behind (outer : List Char) (parts : List Piece) :
    tokensOf (layOut outer parts) =
      (tokensOf (layOut [] parts)).map (Token.moved (Text.byteLength outer) (lineFeeds outer)) := by
  have laidOut := layOut_behind outer [] parts
  rw [List.append_nil] at laidOut
  rw [laidOut, tokensOf, tokensOf, List.filterMap_map, List.map_filterMap]
  exact congrArg (List.filterMap · _) (funext (Placed.token?_behind outer))

theorem errorsOf_behind (outer : List Char) (parts : List Piece) :
    errorsOf (layOut outer parts) =
      (errorsOf (layOut [] parts)).map (ScanError.moved (lineFeeds outer)) := by
  have laidOut := layOut_behind outer [] parts
  rw [List.append_nil] at laidOut
  rw [laidOut, errorsOf, errorsOf, List.filterMap_map, List.map_filterMap]
  exact congrArg (List.filterMap · _) (funext (Placed.error?_behind outer))

theorem finalToken_behind (outer text : List Char) :
    TokenStream.finalToken (outer ++ text) =
      (TokenStream.finalToken text).moved (Text.byteLength outer) (lineFeeds outer) := by
  simp [TokenStream.finalToken, Token.endOfInput, Token.moved, lineBehind_outer, Nat.add_comm]

/-- A text is laid out line by line. -/
theorem placedPieces_append_lineFeed {text : List Char} (closed : leavesOpen text = false)
    (behind : List Char) :
    placedPieces (text ++ '\n' :: behind) =
      placedPieces text ++ [⟨text, .blank, ['\n']⟩] ++
        layOut (text ++ ['\n']) (pieces behind) := by
  rw [placedPieces, pieces_append_lineFeed closed, layOut_append, List.nil_append, textOf_pieces,
    layOut_cons, ← List.append_assoc]
  rfl

theorem leavesOpen_of_not_mem {text : List Char}
    (closed : ∀ line, .unterminatedString line ∉ (scanText text).errors) :
    leavesOpen text = false := by
  rw [← Bool.not_eq_true, leavesOpen_iff]
  rintro ⟨line, reported⟩
  exact closed line reported

end Scan

/-- Scanning is compositional at line feeds outside strings.  What a source without an open string
is scanned to, up to its end of input, stays as it is when a line feed and more source follow, and
what follows is scanned as if it stood alone and then moved. -/
theorem scan_append_lineFeed (first second : String)
    (closed : ∀ line, .unterminatedString line ∉ (scan first).errors) :
    (scan (first ++ "\n" ++ second)).tokens =
      (scan first).tokens.dropLast ++ (scan second).tokens.map
        (Token.moved (first.utf8ByteSize + 1) (1 + first.toList.count '\n')) ∧
    (scan (first ++ "\n" ++ second)).errors =
      (scan first).errors ++ (scan second).errors.map
        (ScanError.moved (1 + first.toList.count '\n')) := by
  have text : (first ++ "\n" ++ second).toList = first.toList ++ '\n' :: second.toList := by
    simp
  have outer : first.toList ++ '\n' :: second.toList =
      (first.toList ++ ['\n']) ++ second.toList := by
    simp
  have bytes : Text.byteLength (first.toList ++ ['\n']) = first.utf8ByteSize + 1 := by
    rw [Text.byteLength_append, Text.byteLength_toList]
    rfl
  have lines : lineFeeds (first.toList ++ ['\n']) = 1 + first.toList.count '\n' := by
    rw [lineFeeds_append, Nat.add_comm]
    rfl
  have laidOut := placedPieces_append_lineFeed (leavesOpen_of_not_mem closed) second.toList
  constructor
  · simp only [scan, scanText_eq]
    rw [text, laidOut, tokensOf_append, tokensOf_append, tokensOf_behind, outer,
      finalToken_behind, bytes, lines, List.dropLast_concat, List.map_append, placedPieces]
    simp [tokensOf, Placed.token?, placedPieces]
  · simp only [scan, scanText_eq]
    rw [text, laidOut, errorsOf_append, errorsOf_append, errorsOf_behind, lines]
    simp [errorsOf, Placed.error?, placedPieces]

/-- A comment at the end of its source ends in front of a line feed too. -/
theorem scan_append_lineFeed_comment :
    (∀ line, .unterminatedString line ∉ (scan "a //").errors) ∧
    (scan ("a //" ++ "\n" ++ "@!")).tokens =
      [⟨.identifier, "a", 1, ⟨0, 1⟩⟩, ⟨.punctuator .bang, "!", 2, ⟨6, 7⟩⟩,
        Token.endOfInput 2 7] ∧
    (scan ("a //" ++ "\n" ++ "@!")).errors = [.unexpectedCharacter 2 '@'] := by
  have noErrors : (scan "a //").errors = [] := by decide +kernel
  have closed : ∀ line, .unterminatedString line ∉ (scan "a //").errors := by
    intro line
    rw [noErrors]
    exact List.not_mem_nil
  rcases scan_append_lineFeed "a //" "@!" closed with ⟨tokens, errors⟩
  exact ⟨closed, tokens.trans (by decide +kernel), errors.trans (by decide +kernel)⟩

end LoxTokenizer

import LoxTokenizer.Proofs.Scan.Grammar
import LoxTokenizer.Proofs.Style.Pen
import LoxTokenizer.Proofs.Text.Slice
import LoxTokenizer.Session.Highlight

namespace LoxTokenizer
namespace Session

open Scan
open Style (Clean Shows)

/-!
# Highlighted text

Highlighting puts a source together again from the lexemes of its tokens and from what lies between
their spans.  The pieces of the source tell what that is: between two tokens lie the pieces that are
none, so the highlighted source is the same when it is made piece by piece.  From there on no offset
is left, and what is written, character by character and with which pen, is read off the pieces.
In particular nothing of the text gets lost.
-/

/-! ## Gaps are made of pieces -/

/-- Pieces in colour, behind a gap that has been gathered so far. -/
def piecesInColor (gap : List Char) : List Piece → String
  | [] => gapInColor gap
  | piece :: later =>
      match piece.role with
      | .token kind =>
          gapInColor gap ++ tokenInColor kind.tag (String.ofList piece.text) ++
            piecesInColor [] later
      | _ => piecesInColor (gap ++ piece.text) later

/-- What is cut out of a source between two of its offsets is the text that lies there. -/
theorem gapBetween_append (before gap behind : List Char) :
    gapBetween (before ++ gap ++ behind) (Text.byteLength before)
      (Text.byteLength (before ++ gap)) = gap := by
  rw [gapBetween, Text.betweenBytes?_append, Option.getD_some]

/-- The tokens of pieces, and what lies between their spans, make up the pieces. -/
theorem tokensInColor_layOut {source before gap : List Char} {parts : List Piece}
    (divided : before ++ gap ++ textOf parts = source)
    (noEnd : ∀ piece ∈ parts, piece.role ≠ .token .endOfInput) :
    tokensInColor source (Text.byteLength before)
        (tokensOf (layOut (before ++ gap) parts) ++ [TokenStream.finalToken source]) =
      piecesInColor gap parts := by
  induction parts generalizing before gap with
  | nil =>
      have cut := gapBetween_append before gap []
      rw [textOf_nil, List.append_nil] at divided
      rw [List.append_nil, divided] at cut
      exact congrArg gapInColor cut
  | cons piece later ih =>
      rcases List.forall_mem_cons.mp noEnd with ⟨noEndHere, noEndLater⟩
      rcases piece with ⟨role, text⟩
      -- A piece that is no token joins the gap; a token starts another one.
      have joined : before ++ (gap ++ text) ++ textOf later = source := by
        rw [← divided, textOf_cons]
        simp
      have skipped := ih joined noEndLater
      rw [← List.append_assoc] at skipped
      cases role with
      | token kind =>
          have cut := gapBetween_append before gap (text ++ textOf later)
          have whole : before ++ gap ++ (text ++ textOf later) = source := by
            rw [← divided, textOf_cons]
          have behind : before ++ gap ++ text ++ [] ++ textOf later = source := by
            rw [← whole]
            simp
          have rest := ih behind noEndLater
          have notEnd : (kind == .endOfInput) = false := by
            refine beq_eq_false_iff_ne.mpr ?_
            rintro rfl
            exact noEndHere rfl
          rw [List.append_nil] at rest
          rw [whole] at cut
          change (if (kind == .endOfInput) = true then _ else
            gapInColor (gapBetween source (Text.byteLength before)
                (Text.byteLength (before ++ gap))) ++ tokenInColor kind.tag (String.ofList text) ++
              tokensInColor source (Text.byteLength (before ++ gap ++ text))
                (tokensOf (layOut (before ++ gap ++ text) later) ++
                  [TokenStream.finalToken source])) = _
          rw [notEnd, cut, rest]
          rfl
      | blank => exact skipped
      | comment => exact skipped
      | openString => exact skipped
      | stray => exact skipped

/-- A highlighted source is made of its pieces. -/
theorem highlightSource_eq (source : String) :
    highlightSource source = piecesInColor [] (pieces source.toList) := by
  have divided : [] ++ [] ++ textOf (pieces source.toList) = source.toList :=
    textOf_pieces source.toList
  rw [highlightSource, scan, scanText_eq]
  exact tokensInColor_layOut divided fun _ member => role_ne_endOfInput member

/-! ## Pens -/

/-- The pen that a token is written with. -/
def tokenPen (tag : Token.Tag) : Pen :=
  match tag with
  | .string => Pen.plain.styled (.color .green)
  | .number => Pen.plain.styled (.color .yellow)
  | .identifier | .endOfInput => .plain
  | .keyword .trueWord | .keyword .falseWord | .keyword .nilWord =>
      Pen.plain.styled (.color .blue)
  | .keyword _ => (Pen.plain.styled .bold).styled (.color .magenta)
  | .punctuator mark =>
      if mark.isOpening || mark.isClosing then Pen.plain.styled (.color .yellow)
      else Pen.plain.styled (.color .cyan)

/-- The pen of faint print. -/
def faintPen : Pen := Pen.plain.styled .dimmed

/-- The characters of a gap: plain, but faint from the first pair of slashes on. -/
def gapWritten (gap : List Char) : List (Char × Pen) :=
  (splitAtSlashes gap).1.map (·, .plain) ++ (splitAtSlashes gap).2.map (·, faintPen)

/-- What is written for pieces behind a gap. -/
def piecesWritten (gap : List Char) : List Piece → List (Char × Pen)
  | [] => gapWritten gap
  | piece :: later =>
      match piece.role with
      | .token kind =>
          gapWritten gap ++ piece.text.map (·, tokenPen kind.tag) ++ piecesWritten [] later
      | _ => piecesWritten (gap ++ piece.text) later

theorem writes_colored (shade : Color) {text : String} (clean : Clean text.toList) :
    Writes .plain (colored shade text)
      (text.toList.map (·, Pen.plain.styled (.color shade))) .plain :=
  .apply (.color shade) (.clean _ clean)

theorem writes_tokenInColor (tag : Token.Tag) {text : String} (clean : Clean text.toList) :
    Writes .plain (tokenInColor tag text) (text.toList.map (·, tokenPen tag)) .plain := by
  cases tag with
  | string => exact writes_colored .green clean
  | number => exact writes_colored .yellow clean
  | identifier => exact .clean .plain clean
  | endOfInput => exact .clean .plain clean
  | keyword word =>
      have bold : Writes .plain (boldColored .magenta text)
          (text.toList.map (·, (Pen.plain.styled .bold).styled (.color .magenta))) .plain :=
        .apply .bold (.apply (.color .magenta) (.clean _ clean))
      cases word with
      | trueWord => exact writes_colored .blue clean
      | falseWord => exact writes_colored .blue clean
      | nilWord => exact writes_colored .blue clean
      | _ => exact bold
  | punctuator mark =>
      rw [tokenInColor, tokenPen]
      split
      · exact writes_colored .yellow clean
      · exact writes_colored .cyan clean

theorem writes_gapInColor {gap : List Char} (clean : Clean gap) :
    Writes .plain (gapInColor gap) (gapWritten gap) .plain := by
  have whole := splitAtSlashes_append gap
  rw [gapInColor, gapWritten]
  generalize splitAtSlashes gap = parts at whole ⊢
  rcases parts with ⟨front, slashed⟩
  rw [← whole, Clean, List.mem_append, not_or] at clean
  have plainFront : Writes .plain (String.ofList front) (front.map (·, .plain)) .plain :=
    .ofList .plain clean.1
  cases slashed with
  | nil => simpa using plainFront
  | cons slash more => exact plainFront.append (.apply .dimmed (.ofList _ clean.2))

theorem writes_piecesInColor {gap : List Char} (clean : Clean gap) {parts : List Piece}
    (cleanParts : ∀ piece ∈ parts, Clean piece.text) :
    Writes .plain (piecesInColor gap parts) (piecesWritten gap parts) .plain := by
  induction parts generalizing gap with
  | nil => exact writes_gapInColor clean
  | cons piece later ih =>
      rcases List.forall_mem_cons.mp cleanParts with ⟨cleanHere, cleanLater⟩
      rcases piece with ⟨role, text⟩
      have cleanJoined : Clean (gap ++ text) := by
        rw [Clean, List.mem_append, not_or]
        exact ⟨clean, cleanHere⟩
      have skipped := ih cleanJoined cleanLater
      cases role with
      | token kind =>
          have isClean : Clean (String.ofList text).toList := by
            rwa [String.toList_ofList]
          have token := writes_tokenInColor kind.tag isClean
          rw [String.toList_ofList] at token
          exact ((writes_gapInColor clean).append token).append (ih List.not_mem_nil cleanLater)
      | blank => exact skipped
      | comment => exact skipped
      | openString => exact skipped
      | stray => exact skipped

theorem map_fst_gapWritten (gap : List Char) : (gapWritten gap).map Prod.fst = gap := by
  simp [gapWritten, Function.comp_def, splitAtSlashes_append]

/-- Pens left out, the pieces are their text. -/
theorem map_fst_piecesWritten (gap : List Char) (parts : List Piece) :
    (piecesWritten gap parts).map Prod.fst = gap ++ textOf parts := by
  induction parts generalizing gap with
  | nil => rw [piecesWritten, map_fst_gapWritten, textOf_nil, List.append_nil]
  | cons piece later ih =>
      rcases piece with ⟨role, text⟩
      have skipped := ih (gap ++ text)
      rw [List.append_assoc] at skipped
      cases role with
      | token kind => simp [piecesWritten, map_fst_gapWritten, Function.comp_def, ih]
      | blank => exact skipped
      | comment => exact skipped
      | openString => exact skipped
      | stray => exact skipped

/-- What a highlighted source writes, provided that it has no escape characters of its own. -/
theorem written_highlightSource {source : String} (clean : Clean source.toList) :
    Pen.plain.written (highlightSource source).toList =
      piecesWritten [] (pieces source.toList) := by
  have cleanParts : ∀ piece ∈ pieces source.toList, Clean piece.text := by
    intro piece member inside
    apply clean
    rw [← flatten_pieces source.toList]
    exact List.mem_flatten_of_mem (List.mem_map_of_mem member) inside
  rw [highlightSource_eq]
  exact (writes_piecesInColor List.not_mem_nil cleanParts).written_eq

theorem plain_highlightSource {source : String} (clean : Clean source.toList) :
    Style.plain (highlightSource source).toList = source.toList := by
  rw [← Pen.map_fst_written .plain, written_highlightSource clean, map_fst_piecesWritten,
    List.nil_append, textOf_pieces]

/-- Highlighting keeps the text: without the control sequences of its colours a highlighted source is
the source, and so is a highlighted line, provided that there are no escape characters in it. -/
theorem highlighted_text (source : String) (clean : '\x1b' ∉ source.toList) :
    Style.plain (highlightSource source).toList = source.toList ∧
      Style.plain (highlightLine source).toList = source.toList := by
  refine ⟨plain_highlightSource clean, ?_⟩
  rw [highlightLine]
  split
  · have shows : Shows (colored .magenta source) source := .apply _ (.clean clean)
    exact shows.plain_eq
  · exact plain_highlightSource clean

/-- A comment, a rejected character of two bytes and a string that is left open, in one line. -/
theorem highlighted_text_openString :
    '\x1b' ∉ "print 1; // é\n@é \"a//b".toList ∧
      Style.plain (highlightSource "print 1; // é\n@é \"a//b").toList =
        "print 1; // é\n@é \"a//b".toList :=
  ⟨by decide, (highlighted_text "print 1; // é\n@é \"a//b" (by decide)).1⟩

end Session
end LoxTokenizer

import LoxTokenizer.Proofs.Scan.Moves
import LoxTokenizer.Session.Highlight

namespace LoxTokenizer
namespace Session

open Scan
open Text (IsRun IsSlice)

/-!
# Every cut exists

Scanning cuts lexemes, and the insides of strings, out of its source by byte offsets, and highlighting
cuts out what lies between two tokens.  A cut by offsets can fail, and where it does the definitions
fall back on no text at all.  That never happens: `Cuts` tells all the ranges that are cut out of a
source, and each of them is a piece of it.

For the cuts of a scan this is the invariant of its cursor, kept by each move.  The inside of a string
needs more, since a byte is left out at each end of the lexeme: a closed string has its two quotes
there.  Highlighting takes its offsets from spans of tokens, and the tokens of a source lie in it one
behind the other.  So a highlighting that gave up where a cut fails, `tokensInColor?`, would never give
up.
-/

/-- The ranges of bytes in front of tokens, each from where the token before it stops. -/
def gapRanges (last : Nat) : List Token → List (Nat × Nat)
  | [] => []
  | token :: later => (last, token.span.start) :: gapRanges token.span.stop later

/-- Tokens in colour, where what lies between two of them can be cut out. -/
def tokensInColor? (source : List Char) (last : Nat) : List Token → Option String
  | [] => some ""
  | token :: later => do
      let gap := gapInColor (← Text.betweenBytes? last token.span.start source)
      if token.isEndOfInput then some gap
      else
        let behind ← tokensInColor? source token.span.stop later
        some (gap ++ tokenInColor token.kind.tag token.lexeme ++ behind)

/-- What is cut out of a source that is scanned and highlighted: the range of bytes, and what the cut
answers. -/
inductive Cuts (source : List Char) : Nat → Nat → Option (List Char) → Prop where
  /-- The lexeme of a piece, which numbers and names are also looked at for. -/
  | lexeme {cursor passed : Cursor} {first : Char} (here : Comes source cursor)
      (advanced : cursor.markStart.advance? = some (first, passed)) :
      Cuts source (read first passed).cursor.start (read first passed).cursor.current
        (read first passed).cursor.lexeme?
  /-- The inside of a string that a quote closes. -/
  | inside {cursor passed : Cursor} {quote : Char} (here : Comes source cursor)
      (advanced : cursor.markStart.advance? = some ('"', passed))
      (closed : passed.eatToQuote.peek? = some quote) :
      Cuts source (passed.eatToQuote.skip.start + 1) (passed.eatToQuote.skip.current - 1)
        passed.eatToQuote.skip.inner?
  | gap {start stop : Nat} (between : (start, stop) ∈ gapRanges 0 (scanText source).tokens) :
      Cuts source start stop (Text.betweenBytes? start stop source)

/-- A string is closed by a quote, and between the two quotes its inside is cut out. -/
theorem inner?_of_closed {text : List Char} {cursor passed : Cursor} {quote : Char}
    (within : cursor.Within text) (advanced : cursor.markStart.advance? = some ('"', passed))
    (closed : passed.eatToQuote.peek? = some quote) :
    ∃ before body behind, before ++ body ++ behind = text ∧
      passed.eatToQuote.skip.start + 1 = Text.byteLength before ∧
      passed.eatToQuote.skip.current - 1 = Text.byteLength (before ++ body) ∧
      passed.eatToQuote.skip.inner? = some body := by
  rcases within.exists_passed advanced with ⟨before, following, line, rfl, rfl⟩
  rcases string_shapes following with ⟨body, rest, rfl, noQuote⟩ | never
  · have run : IsRun (· != '"') body ('"' :: rest) := IsRun.ne_of_not_mem noQuote (by simp)
    have inner := Cursor.inner?_standing before rest (line + body.count '\n') body
    have quoteSize : '"'.utf8Size = 1 := by decide
    refine ⟨before ++ ['"'], body, '"' :: rest, by simp, ?_⟩
    simp only [Cursor.eatToQuote_standing, run.takeWhile_eq, run.dropWhile_eq,
      Cursor.skip_standing_cons, Cursor.start_standing, Cursor.current_standing,
      Text.byteLength_append, Text.byteLength_cons, Text.byteLength_nil, quoteSize]
    refine ⟨trivial, by omega, ?_⟩
    simpa using inner
  · have run : IsRun (· != '"') following [] := IsRun.ne_of_not_mem never (by simp)
    have dropped := run.dropWhile_eq
    rw [List.append_nil] at dropped
    rw [Cursor.eatToQuote_standing, dropped] at closed
    cases closed

/-- What lies between the tokens of pieces, and behind the last of them, are pieces of the source. -/
theorem isSlice_of_mem_gapRanges {source before gap : List Char} {parts : List Piece}
    (divided : before ++ gap ++ textOf parts = source) :
    ∀ range ∈ gapRanges (Text.byteLength before)
        (tokensOf (layOut (before ++ gap) parts) ++ [TokenStream.finalToken source]),
      IsSlice source range.1 range.2 := by
  induction parts generalizing before gap with
  | nil =>
      rw [textOf_nil] at divided
      intro range member
      rw [List.mem_singleton.mp member, ← divided]
      have whole := Text.isSlice_append before gap []
      rwa [List.append_nil] at whole ⊢
  | cons piece later ih =>
      rcases piece with ⟨role, text⟩
      have joined : before ++ (gap ++ text) ++ textOf later = source := by
        rw [← divided, textOf_cons]
        simp
      have skipped := ih joined
      rw [← List.append_assoc] at skipped
      cases role with
      | token kind =>
          have passed : before ++ gap ++ text ++ [] ++ textOf later = source := by
            rw [← joined]
            simp
          have behind := ih passed
          rw [List.append_nil] at behind
          refine List.forall_mem_cons.mpr ⟨?_, behind⟩
          rw [← divided]
          exact Text.isSlice_append before gap _
      | blank => exact skipped
      | comment => exact skipped
      | openString => exact skipped
      | stray => exact skipped

/-- Where the ranges in front of tokens are pieces of the source, nothing is missing from the tokens in
colour. -/
theorem tokensInColor?_eq {source : List Char} {last : Nat} {tokens : List Token}
    (slices : ∀ range ∈ gapRanges last tokens, IsSlice source range.1 range.2) :
    tokensInColor? source last tokens = some (tokensInColor source last tokens) := by
  induction tokens generalizing last with
  | nil => rfl
  | cons token later ih =>
      rcases List.forall_mem_cons.mp slices with ⟨first, others⟩
      rcases Text.isSlice_iff.mp first with ⟨gap, found⟩
      dsimp only at found
      rw [tokensInColor?, tokensInColor, gapBetween, found]
      cases token.isEndOfInput with
      | true => rfl
      | false =>
          simp only [Option.bind_eq_bind, Option.bind_some, ih others]
          rfl

/-- What lies in front of the tokens of a source, and behind the last of them, are pieces of it. -/
theorem isSlice_of_between {source : List Char} {start stop : Nat}
    (between : (start, stop) ∈ gapRanges 0 (scanText source).tokens) :
    IsSlice source start stop := by
  have divided : [] ++ [] ++ textOf (pieces source) = source := textOf_pieces source
  rw [scanText_eq] at between
  exact isSlice_of_mem_gapRanges divided _ between

/-- Whatever is cut out of a source is a piece of it. -/
theorem Cuts.isSlice {source : List Char} {start stop : Nat} {cut : Option (List Char)}
    (cuts : Cuts source start stop cut) :
    IsSlice source start stop ∧ cut = Text.betweenBytes? start stop source := by
  cases cuts with
  | lexeme here advanced =>
      have within := (Comes.onward here advanced).within
      exact ⟨within.slice, within.lexeme?_eq⟩
  | inside here advanced closed =>
      rcases inner?_of_closed here.within advanced closed with
        ⟨before, body, behind, rfl, starts, stops, inner⟩
      rw [starts, stops, inner]
      exact ⟨Text.isSlice_append before body behind,
        (Text.betweenBytes?_append before body behind).symm⟩
  | gap between => exact ⟨isSlice_of_between between, rfl⟩

/-- A cursor over a source keeps its invariant whatever moves are made with it, and scanning, however
it is asked for tokens, only makes such moves.  So every range of bytes that is cut out of the source,
by the scan or in highlighting it, is a piece of the source: in order, inside, and with both ends
between characters; and the cut answers what lies there.  Highlighting with cuts that may fail is
highlighting. -/
theorem cuts_are_slices {σ : Type} [ErrorSink σ] (sink : σ) (source : String) :
    (Cursor.ofText source.toList).Within source.toList ∧
    (∀ (cursor : Cursor) (move : Cursor.Move), cursor.Within source.toList →
      (cursor.move move).Within source.toList) ∧
    (∀ cursor, Comes source.toList cursor → (Cursor.ofText source.toList).Leads cursor) ∧
    (∀ asked, Comes source.toList ((TokenStream.ofSource source sink).calls asked).stream.cursor) ∧
    (∀ start stop cut, Cuts source.toList start stop cut →
      IsSlice source.toList start stop ∧
        ∃ text, cut = some text ∧ Text.betweenBytes? start stop source.toList = some text) ∧
    tokensInColor? source.toList 0 (scan source).tokens = some (highlightSource source) := by
  refine ⟨Cursor.within_ofText _, fun cursor move within => within.move move,
    fun cursor comes => comes.leads, TokenStream.comes_calls sink, ?_,
    tokensInColor?_eq fun _ between => isSlice_of_between between⟩
  intro start stop cut cuts
  rcases cuts.isSlice with ⟨slice, same⟩
  rcases Text.isSlice_iff.mp slice with ⟨text, found⟩
  exact ⟨slice, text, same.trans found, found⟩

end Session
end LoxTokenizer

import LoxTokenizer.Proofs.Scan.Finding
import LoxTokenizer.Scan.Basic

namespace LoxTokenizer

open Scan

/-!
# What a stream hands out

A stream that stands behind `before`, with `unread` still to come, hands out the tokens among the
pieces of `unread` and reports the errors of those pieces, each piece in its place.  One pull passes
the pieces in front of the next token, reporting as it goes, and stops right behind that token; this
is `outcome_pull`.  What draining a stream amounts to follows from it, and with it what a whole scan
answers.
-/

/-- A cursor with `before` passed and counted, and `unread` to come.  Where its lexeme starts is left
open. -/
def Cursor.StandsAt (before unread : List Char) (cursor : Cursor) : Prop :=
  ∃ outside lexeme, outside ++ lexeme = before ∧
    cursor = .standing outside lexeme unread (lineBehind before)

namespace Cursor

theorem standsAt_ofText (text : List Char) : (ofText text).StandsAt [] text :=
  ⟨[], [], rfl, rfl⟩

/-- Wherever the last lexeme started, the next one starts here. -/
theorem StandsAt.markStart_eq {before unread : List Char} {cursor : Cursor}
    (stands : cursor.StandsAt before unread) :
    cursor.markStart = standing before [] unread (lineBehind before) := by
  rcases stands with ⟨outside, lexeme, rfl, rfl⟩
  exact markStart_standing outside lexeme unread _

end Cursor

namespace Scan

/-- A cursor that has read a piece stands behind it, its lines counted. -/
theorem standsAt_reading (before : List Char) (first : Char) (cut : Cut) :
    (cut.reading before (lineBehind before) first).cursor.StandsAt
      (before ++ (cut.piece first).text) cut.rest :=
  ⟨before, first :: cut.more, rfl, by rw [Cut.reading, Cut.piece, lineBehind_append]⟩

/-- What is found in a piece is its token, its error, or nothing. -/
theorem Placed.finding_eq (placed : Placed) :
    placed.piece.finding placed.line =
      match placed.token?, placed.error? with
      | some token, _ => .token token.kind
      | none, some error => .problem error
      | none, none => .nothing := by
  rcases placed with ⟨before, role, text⟩
  cases role with
  | stray => cases text <;> rfl
  | openString =>
      simp [Piece.finding, Placed.token?, Placed.error?, Placed.line, lineBehind_append]
  | token kind => rfl
  | blank => rfl
  | comment => rfl

/-- A token tells the piece it comes from. -/
theorem Placed.token?_eq_some {placed : Placed} {token : Token}
    (found : placed.token? = some token) :
    token = ⟨token.kind, String.ofList placed.piece.text, placed.line, placed.span⟩ ∧
      placed.piece.role = .token token.kind := by
  rcases placed with ⟨before, role, text⟩
  cases role with
  | token kind =>
      cases found
      exact ⟨rfl, rfl⟩
  | blank => cases found
  | comment => cases found
  | openString => cases found
  | stray => cases found

/-- A piece that is a token gives rise to no error. -/
theorem Placed.error?_of_token? {placed : Placed} {token : Token}
    (found : placed.token? = some token) : placed.error? = none := by
  rcases Placed.token?_eq_some found with ⟨same, role⟩
  simp [Placed.error?, role]

end Scan

@[simp] theorem reportAll_nil {σ : Type} [ErrorSink σ] (sink : σ) : reportAll sink [] = sink := rfl

@[simp] theorem reportAll_cons {σ : Type} [ErrorSink σ] (sink : σ) (error : ScanError)
    (rest : List ScanError) :
    reportAll sink (error :: rest) = reportAll (ErrorSink.report sink error) rest := rfl

/-- Errors reported in two goes are reported as in one. -/
theorem reportAll_append {σ : Type} [ErrorSink σ] (sink : σ) (first second : List ScanError) :
    reportAll sink (first ++ second) = reportAll (reportAll sink first) second :=
  List.foldl_append

namespace TokenStream

variable {σ : Type} [ErrorSink σ] {stream : TokenStream σ} {before : List Char}

/-! ## One piece -/

theorem pull_of_nil (stands : stream.cursor.StandsAt before []) :
    stream.pull = atEnd { stream with cursor := .standing before [] [] (lineBehind before) } := by
  have ended : stream.cursor.markStart.advance? = none := by
    rw [stands.markStart_eq, Cursor.advance?_standing_nil]
  rw [pull]
  split
  · rw [stands.markStart_eq]
  · rename_i first passed advanced
    rw [ended] at advanced
    cases advanced

section

variable {first : Char} {following : List Char}

/-- The piece that comes next. -/
def nextPiece (first : Char) (following : List Char) : Piece :=
  (cutAt first following).piece first

/-- The cursor behind the piece that comes next. -/
def nextCursor (before : List Char) (first : Char) (following : List Char) : Cursor :=
  ((cutAt first following).reading before (lineBehind before) first).cursor

/-- A pull reads the next piece and goes by what it is. -/
theorem pull_of_cons (stands : stream.cursor.StandsAt before (first :: following)) :
    stream.pull =
      match Placed.token? ⟨before, nextPiece first following⟩,
        Placed.error? ⟨before, nextPiece first following⟩ with
      | some token, _ =>
          { token
            events := []
            stream := { stream with
              cursor := nextCursor before first following, produced := stream.produced + 1 } }
      | none, some error =>
          let later := pull { stream with
            cursor := nextCursor before first following,
            sink := ErrorSink.report stream.sink error }
          { later with events := .scanError error :: later.events }
      | none, none => pull { stream with cursor := nextCursor before first following } := by
  have advanced : stream.cursor.markStart.advance? =
      some (first, .standing before [first] following (lineBehind before)) := by
    rw [stands.markStart_eq, Cursor.advance?_standing_cons, List.nil_append]
  have found : ((cutAt first following).reading before (lineBehind before) first).finding = _ :=
    Placed.finding_eq ⟨before, nextPiece first following⟩
  have lexeme : lexemeOf (nextCursor before first following) =
      (nextPiece first following).text := by
    rw [lexemeOf, nextCursor, Cut.reading, Cursor.lexeme?_standing]
    rfl
  rw [pull]
  split
  · rename_i ended
    rw [advanced] at ended
    cases ended
  · rename_i char passed same
    rw [advanced] at same
    cases same
    simp only [read_standing, found]
    cases isToken : Placed.token? ⟨before, nextPiece first following⟩ with
    | some token =>
        have told : (⟨token.kind, String.ofList (lexemeOf (nextCursor before first following)),
            stream.cursor.markStart.line, Placed.span ⟨before, nextPiece first following⟩⟩ : Token) =
              token := by
          rw [lexeme, stands.markStart_eq]
          exact (Placed.token?_eq_some isToken).1.symm
        exact congrArg (fun answered => (⟨answered, [], _⟩ : Pull σ)) told
    | none =>
        cases isError : Placed.error? ⟨before, nextPiece first following⟩ with
        | some error => rfl
        | none => rfl

/-- The cursor behind the next piece stands there. -/
theorem standsAt_nextCursor (before : List Char) (first : Char) (following : List Char) :
    (nextCursor before first following).StandsAt
      (before ++ (nextPiece first following).text)
      (cutAt first following).rest :=
  standsAt_reading before first (cutAt first following)

end

/-! ## One token -/

/-- What a pull can come to, from a stream that stands behind `before` and in front of `unread`: the
next token, behind some pieces that are none, or the end of the text. -/
inductive Outcome (stream : TokenStream σ) (before unread : List Char) : Pull σ → Prop where
  | token {skipped : List Piece} {piece : Piece} {rest : List Char} {token : Token}
      {cursor : Cursor}
      (divided : pieces unread = skipped ++ piece :: pieces rest)
      (noToken : tokensOf (layOut before skipped) = [])
      (found : Placed.token? ⟨before ++ textOf skipped, piece⟩ = some token)
      (stands : cursor.StandsAt (before ++ textOf skipped ++ piece.text) rest) :
      Outcome stream before unread
        { token
          events := (errorsOf (layOut before skipped)).map .scanError
          stream :=
            { cursor
              produced := stream.produced + 1
              finished := stream.finished
              sink := reportAll stream.sink (errorsOf (layOut before skipped)) } }
  | ending {cursor : Cursor}
      (noToken : tokensOf (layOut before (pieces unread)) = [])
      (stands : cursor.StandsAt (before ++ unread) []) :
      Outcome stream before unread
        { token := Token.endOfInput (lineBehind (before ++ unread))
            (Text.byteLength (before ++ unread))
          events := (errorsOf (layOut before (pieces unread))).map .scanError ++
            if stream.finished then []
            else [.scanComplete stream.produced (lineBehind (before ++ unread))]
          stream :=
            { cursor
              produced := stream.produced
              finished := true
              sink := reportAll stream.sink (errorsOf (layOut before (pieces unread))) } }

/-- A piece that is no token, passed before a pull, only adds its error. -/
theorem Outcome.behind_piece {piece : Piece} {rest unread : List Char} {cursor : Cursor}
    {pulled : Pull σ} (divided : pieces unread = piece :: pieces rest)
    (noToken : Placed.token? ⟨before, piece⟩ = none)
    (later : Outcome
      { stream with cursor, sink := reportAll stream.sink (errorsOf [⟨before, piece⟩]) }
      (before ++ piece.text) rest pulled) :
    Outcome stream before unread
      { pulled with
        events := (errorsOf [⟨before, piece⟩]).map .scanError ++ pulled.events } := by
  have whole : unread = piece.text ++ rest := by
    rw [← textOf_pieces unread, divided, textOf_cons, textOf_pieces]
  have errorsBehind : ∀ parts, errorsOf (layOut before (piece :: parts)) =
      errorsOf [⟨before, piece⟩] ++ errorsOf (layOut (before ++ piece.text) parts) :=
    fun parts => by rw [layOut_cons, errorsOf_append]
  cases later with
  | @token skipped next behind token cursor dividedLater noTokenLater found stands =>
      have dividedAll : pieces unread = (piece :: skipped) ++ next :: pieces behind := by
        rw [divided, dividedLater, List.cons_append]
      have noTokenAll : tokensOf (layOut before (piece :: skipped)) = [] := by
        simpa [tokensOf, layOut, noToken] using noTokenLater
      have outcome : stream.Outcome before unread _ :=
        .token dividedAll noTokenAll (by simpa using found) (by simpa using stands)
      rw [errorsBehind] at outcome
      simpa [reportAll_append] using outcome
  | @ending cursor noTokenLater stands =>
      have noTokenAll : tokensOf (layOut before (pieces unread)) = [] := by
        rw [divided]
        simpa [tokensOf, layOut, noToken] using noTokenLater
      have outcome : stream.Outcome before unread _ :=
        .ending noTokenAll (by simpa [whole] using stands)
      rw [divided, errorsBehind] at outcome
      simpa [reportAll_append, whole] using outcome

/-- Every pull comes to one of its outcomes. -/
theorem outcome_pull {unread : List Char} (stands : stream.cursor.StandsAt before unread) :
    stream.Outcome before unread stream.pull := by
  induction unread using pieces.induct generalizing stream before with
  | case1 =>
      have behind : (Cursor.standing before [] [] (lineBehind before)).StandsAt (before ++ []) [] :=
        ⟨before, [], by simp⟩
      have ended : stream.Outcome before [] _ := .ending (by simp [tokensOf]) behind
      rw [pull_of_nil stands]
      simpa [atEnd, errorsOf, layOut] using ended
  | case2 first following ih =>
      have divided : pieces (first :: following) =
          nextPiece first following :: pieces (cutAt first following).rest :=
        pieces_cons first following
      have behind := standsAt_nextCursor before first following
      rw [pull_of_cons stands]
      cases isToken : Placed.token? ⟨before, nextPiece first following⟩ with
      | some token =>
          have isTokenHere : Placed.token? ⟨before ++ textOf [], nextPiece first following⟩ =
              some token := by
            rwa [textOf_nil, List.append_nil]
          exact .token divided rfl isTokenHere (by simpa using behind)
      | none =>
          cases isError : Placed.error? ⟨before, nextPiece first following⟩ with
          | some error =>
              have errors : errorsOf [⟨before, nextPiece first following⟩] = [error] := by
                simp [errorsOf, isError]
              have later : Outcome { stream with
                  cursor := nextCursor before first following
                  sink := ErrorSink.report stream.sink error } _ _ _ := ih behind
              have outcome : stream.Outcome before (first :: following) _ :=
                .behind_piece divided isToken (by simpa [errors] using later)
              simpa [errors] using outcome
          | none =>
              have errors : errorsOf [⟨before, nextPiece first following⟩] = [] := by
                simp [errorsOf, isError]
              have later : Outcome { stream with
                  cursor := nextCursor before first following } _ _ _ := ih behind
              have outcome : stream.Outcome before (first :: following) _ :=
                .behind_piece divided isToken (by simpa [errors] using later)
              simpa [errors] using outcome

/-! ## All tokens -/

/-- The token at the end of a text. -/
def finalToken (text : List Char) : Token :=
  Token.endOfInput (lineBehind text) (Text.byteLength text)

theorem drain_of_finished (finished : stream.finished = true) :
    stream.drain = { tokens := [], events := [], stream } := by
  rw [drain]
  simp [finished]

theorem drain_of_unfinished (unfinished : stream.finished = false) :
    stream.drain =
      { tokens := stream.pull.token :: stream.pull.stream.drain.tokens
        events := stream.pull.events ++ stream.pull.stream.drain.events
        stream := stream.pull.stream.drain.stream } := by
  rw [drain]
  simp [unfinished]

/-- Draining an unfinished stream hands out every token that is still to come and then the final one,
reports every error, and tells of each error and of the end. -/
theorem drain_eq {unread : List Char} (unfinished : stream.finished = false)
    (stands : stream.cursor.StandsAt before unread) :
    stream.drain.tokens =
        tokensOf (layOut before (pieces unread)) ++ [finalToken (before ++ unread)] ∧
      stream.drain.stream.sink =
        reportAll stream.sink (errorsOf (layOut before (pieces unread))) ∧
      stream.drain.events =
        (errorsOf (layOut before (pieces unread))).map .scanError ++
          [.scanComplete
            (stream.produced + (tokensOf (layOut before (pieces unread))).length)
            (lineBehind (before ++ unread))] := by
  -- The pieces behind the next token are fewer, which carries the induction.
  induction size : (pieces unread).length using Nat.strongRecOn
    generalizing stream before unread with
  | ind size ih =>
      subst size
      rw [drain_of_unfinished unfinished]
      have outcome := outcome_pull stands
      generalize stream.pull = pulled at outcome ⊢
      cases outcome with
      | @token skipped piece rest token cursor divided noToken found behind =>
          have fewer : (pieces rest).length < (pieces unread).length := by
            rw [divided]
            simp
            omega
          let behindToken : TokenStream σ :=
            { cursor
              produced := stream.produced + 1
              finished := stream.finished
              sink := reportAll stream.sink (errorsOf (layOut before skipped)) }
          have stillUnfinished : behindToken.finished = false := unfinished
          rcases ih _ fewer stillUnfinished behind rfl with ⟨tokens, sink, events⟩
          have whole : textOf skipped ++ (piece.text ++ rest) = unread := by
            rw [← textOf_pieces unread, divided, textOf_append, textOf_cons, textOf_pieces]
          have laidOut : layOut before (pieces unread) =
              layOut before skipped ++ ⟨before ++ textOf skipped, piece⟩ ::
                layOut (before ++ textOf skipped ++ piece.text) (pieces rest) := by
            rw [divided, layOut_append, layOut]
          have allTokens : tokensOf (layOut before (pieces unread)) =
              token :: tokensOf (layOut (before ++ textOf skipped ++ piece.text) (pieces rest)) := by
            rw [laidOut, tokensOf, List.filterMap_append, ← tokensOf, noToken, List.nil_append,
              List.filterMap_cons_some found, ← tokensOf]
          have allErrors : errorsOf (layOut before (pieces unread)) =
              errorsOf (layOut before skipped) ++
                errorsOf (layOut (before ++ textOf skipped ++ piece.text) (pieces rest)) := by
            rw [laidOut, errorsOf, List.filterMap_append,
              List.filterMap_cons_none (Placed.error?_of_token? found)]
            rfl
          refine ⟨?_, ?_, ?_⟩
          · rw [allTokens, tokens]
            simp [whole]
          · rw [allErrors, sink, reportAll_append]
          · rw [allErrors, allTokens, events]
            simp [whole, behindToken]
            omega
      | @ending cursor noToken behind =>
          rw [drain_of_finished rfl]
          simp [noToken, unfinished, finalToken]

end TokenStream

namespace Scan

/-- What a scan answers, piece by piece. -/
theorem scanText_eq (text : List Char) :
    scanText text =
      { tokens := tokensOf (placedPieces text) ++ [TokenStream.finalToken text]
        errors := errorsOf (placedPieces text)
        events := (errorsOf (placedPieces text)).map .scanError ++
          [.scanComplete (tokensOf (placedPieces text)).length (lineBehind text)] } := by
  have unfinished : (TokenStream.ofText text ErrorLog.empty).finished = false := rfl
  rcases TokenStream.drain_eq unfinished (Cursor.standsAt_ofText text) with ⟨tokens, sink, events⟩
  simp only [scanText, tokens, sink, events, placedPieces, ErrorLog.errors_reportAll]
  simp [TokenStream.ofText, ErrorLog.empty]

end Scan

end LoxTokenizer

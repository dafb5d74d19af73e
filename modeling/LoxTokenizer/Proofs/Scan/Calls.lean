import LoxTokenizer.Proofs.Scan.Rejection

namespace LoxTokenizer

open Scan

/-!
# Asking a stream for tokens

A stream can be asked in two ways, and whoever asks may mix them.  What was answered so far and what
was reported so far are at every moment those of the pieces that the stream has passed: this is
`Progress`, it holds at the start, and one call keeps it.  Everything else is read off it.  The
stream stops right behind a token, so at that moment the errors are those of the pieces before the
token and of no others.
-/

/-- The two ways to ask a stream for a token. -/
inductive Call where
  /-- Asks for a token and gets one, at the end the last one again. -/
  | pull
  /-- Asks for a token, if the last one has not been answered yet. -/
  | next

namespace TokenStream

variable {σ : Type} [ErrorSink σ]

/-- What a call answers, and the stream behind it. -/
def call (stream : TokenStream σ) : Call → Option Token × TokenStream σ
  | .pull => (some stream.pull.token, stream.pull.stream)
  | .next =>
      match stream.next? with
      | some pulled => (some pulled.token, pulled.stream)
      | none => (none, stream)

/-- The tokens answered and the stream behind them, after any number of calls. -/
structure Run (σ : Type) where
  answered : List Token
  stream : TokenStream σ

/-- One more call. -/
def Run.call (run : Run σ) (call : Call) : Run σ where
  answered := run.answered ++ (run.stream.call call).1.toList
  stream := (run.stream.call call).2

/-- A stream called over and over. -/
def calls (stream : TokenStream σ) (asked : List Call) : Run σ :=
  asked.foldl Run.call ⟨[], stream⟩

/-! ## Progress -/

/-- What was answered and reported, as far as a stream has come through its text. -/
inductive Progress (text : List Char) (stream : TokenStream ErrorLog) (answered : List Token) :
    Prop where
  | underway {done : List Piece} {unread : List Char}
      (divided : pieces text = done ++ pieces unread)
      (stands : stream.cursor.StandsAt (textOf done) unread)
      (unfinished : stream.finished = false)
      (tokens : answered = tokensOf (layOut [] done))
      (errors : stream.sink.errors = errorsOf (layOut [] done))
      (behindToken : ∀ earlier piece, done = earlier ++ [piece] →
        ∃ token, Placed.token? ⟨textOf earlier, piece⟩ = some token)
  | exhausted (again : Nat)
      (stands : stream.cursor.StandsAt text [])
      (finished : stream.finished = true)
      (tokens : answered = tokensOf (placedPieces text) ++
        List.replicate (again + 1) (finalToken text))
      (errors : stream.sink.errors = errorsOf (placedPieces text))

theorem progress_ofText (text : List Char) : Progress text (ofText text ErrorLog.empty) [] := by
  have divided : pieces text = [] ++ pieces text := rfl
  refine .underway divided (Cursor.standsAt_ofText text) rfl rfl rfl ?_
  intro earlier piece impossible
  simp at impossible

/-- A pull makes progress. -/
theorem Progress.pull {text : List Char} {stream : TokenStream ErrorLog} {answered : List Token}
    (progress : Progress text stream answered) :
    Progress text stream.pull.stream (answered ++ [stream.pull.token]) := by
  cases progress with
  | @underway done unread divided stands unfinished tokens errors behindToken =>
      -- The pieces skipped and the token behind them are done now, or nothing is left to do.
      have whole : textOf done ++ unread = text := by
        rw [← textOf_pieces text, divided, textOf_append, textOf_pieces]
      have outcome := outcome_pull stands
      generalize stream.pull = pulled at outcome ⊢
      cases outcome with
      | @token skipped piece rest token cursor dividedUnread noToken found behind =>
          have laidOut : layOut [] (done ++ (skipped ++ [piece])) =
              layOut [] done ++ (layOut (textOf done) skipped ++
                [⟨textOf done ++ textOf skipped, piece⟩]) := by
            simp [layOut_append, layOut]
          have noError : Placed.error? ⟨textOf done ++ textOf skipped, piece⟩ = none :=
            Placed.error?_of_token? found
          have dividedText : pieces text = (done ++ (skipped ++ [piece])) ++ pieces rest := by
            rw [divided, dividedUnread]
            simp
          refine .underway dividedText (by simpa using behind) unfinished ?_ ?_ ?_
          · rw [laidOut, tokensOf_append, tokensOf_append, noToken, tokens]
            simp [tokensOf, found]
          · rw [laidOut, errorsOf_append, errorsOf_append, ErrorLog.errors_reportAll, errors]
            simp [errorsOf, noError]
          · intro earlier last same
            rw [← List.append_assoc] at same
            rcases List.append_inj' same rfl with ⟨rfl, isLast⟩
            cases isLast
            exact ⟨token, by simpa using found⟩
      | @ending cursor noToken behind =>
          have laidOut : placedPieces text =
              layOut [] done ++ layOut (textOf done) (pieces unread) := by
            rw [placedPieces, divided, layOut_append, List.nil_append]
          refine .exhausted 0 (by rwa [whole] at behind) rfl ?_ ?_
          · rw [laidOut, tokensOf_append, noToken, tokens, whole]
            simp [finalToken]
          · rw [laidOut, errorsOf_append, ErrorLog.errors_reportAll, errors]
  | exhausted again stands finished tokens errors =>
      -- Nothing is unread, so the pull can only come to the end once more.
      have outcome := outcome_pull stands
      generalize stream.pull = pulled at outcome ⊢
      cases outcome with
      | token divided => simp at divided
      | @ending cursor noToken behind =>
          refine .exhausted (again + 1) (by simpa using behind) rfl ?_ ?_
          · rw [tokens, List.append_assoc, List.replicate_succ' (n := again + 1)]
            simp [finalToken]
          · simp [errorsOf, errors]

/-- A call makes progress, or is refused and changes nothing. -/
theorem Progress.call {text : List Char} {run : Run ErrorLog} (call : Call)
    (progress : Progress text run.stream run.answered) :
    Progress text (run.call call).stream (run.call call).answered := by
  cases call with
  | pull => exact progress.pull
  | next =>
      cases finished : run.stream.finished with
      | true => simpa [Run.call, TokenStream.call, next?, finished] using progress
      | false => simpa [Run.call, TokenStream.call, next?, finished] using progress.pull

theorem progress_foldl {text : List Char} {run : Run ErrorLog} (asked : List Call)
    (progress : Progress text run.stream run.answered) :
    Progress text (asked.foldl Run.call run).stream (asked.foldl Run.call run).answered := by
  induction asked generalizing run with
  | nil => exact progress
  | cons call rest ih => exact ih (progress.call call)

/-- Whatever a stream is asked, it makes progress. -/
theorem progress_calls (text : List Char) (asked : List Call) :
    Progress text ((ofText text ErrorLog.empty).calls asked).stream
      ((ofText text ErrorLog.empty).calls asked).answered :=
  progress_foldl asked (progress_ofText text)

/-! ## What progress tells -/

section

variable {text : List Char} {stream : TokenStream ErrorLog} {answered : List Token}

/-- The tokens answered so far are those of the scan, the last of them over and over. -/
theorem Progress.getElem?_answered (progress : Progress text stream answered) {index : Nat}
    {token : Token} (here : answered[index]? = some token) :
    (scanText text).tokens[min index ((scanText text).tokens.length - 1)]? = some token := by
  have all : (scanText text).tokens = tokensOf (placedPieces text) ++ [finalToken text] := by
    rw [scanText_eq]
  rw [all, List.length_append, List.length_singleton, Nat.add_sub_cancel]
  have inBounds := (List.getElem?_eq_some_iff.mp here).1
  cases progress with
  | @underway done unread divided stands unfinished tokens errors behindToken =>
      have laidOut : tokensOf (placedPieces text) =
          answered ++ tokensOf (layOut (textOf done) (pieces unread)) := by
        rw [placedPieces, divided, layOut_append, tokensOf_append, tokens, List.nil_append]
      have early : min index (tokensOf (placedPieces text)).length = index := by
        rw [laidOut, List.length_append]
        omega
      rw [early, laidOut, List.append_assoc, List.getElem?_append_left inBounds, here]
  | exhausted again stands finished tokens errors =>
      rw [tokens] at here
      by_cases early : index < (tokensOf (placedPieces text)).length
      · rw [List.getElem?_append_left early] at here
        rw [Nat.min_eq_left (Nat.le_of_lt early), List.getElem?_append_left early, here]
      · have late := Nat.le_of_not_lt early
        rw [List.getElem?_append_right late] at here
        have isFinal : finalToken text = token := by
          rw [List.getElem?_replicate] at here
          split at here
          · exact Option.some.inj here
          · cases here
        rw [Nat.min_eq_right late, List.getElem?_concat_length, isFinal]

/-- A stream is finished once the token at the end has been answered. -/
theorem Progress.finished_eq (progress : Progress text stream answered) :
    stream.finished = answered.any Token.isEndOfInput := by
  cases progress with
  | @underway done unread divided stands unfinished tokens errors behindToken =>
      rw [unfinished, eq_comm, List.any_eq_false]
      intro token member
      have inScan : token ∈ tokensOf (placedPieces text) := by
        rw [placedPieces, divided, layOut_append, tokensOf_append, ← tokens]
        exact List.mem_append_left _ member
      simp [isEndOfInput_of_mem_tokensOf inScan]
  | exhausted again stands finished tokens errors =>
      rw [finished, tokens, eq_comm, List.any_eq_true]
      exact ⟨finalToken text, by simp, rfl⟩

/-- Once finished, everything has been reported. -/
theorem Progress.errors_of_finished (progress : Progress text stream answered)
    (isFinished : stream.finished = true) : stream.sink.errors = (scanText text).errors := by
  cases progress with
  | underway divided stands unfinished =>
      rw [unfinished] at isFinished
      cases isFinished
  | exhausted again stands finished tokens errors => rw [errors, scanText_eq]

/-- Behind a token, the rejections before that token have been reported and no others. -/
theorem Progress.errors_behind_token (progress : Progress text stream answered) {token : Token}
    (last : answered.getLast? = some token) (notFinal : token.isEndOfInput = false) :
    stream.sink.errors =
      ((rejections text).filter fun rejection =>
        decide (Text.byteLength rejection.before < token.span.start)).map Rejection.error := by
  cases progress with
  | @underway done unread divided stands unfinished tokens errors behindToken =>
      rcases List.eq_nil_or_concat done with rfl | ⟨earlier, piece, isDone⟩
      · rw [tokens] at last
        cases last
      · rw [List.concat_eq_append] at isDone
        subst isDone
        rcases behindToken earlier piece rfl with ⟨lastToken, found⟩
        have dividedHere : pieces text = earlier ++ (piece :: pieces unread) := by
          rw [divided, List.append_assoc, List.singleton_append]
        have isLast : lastToken = token := by
          rw [tokens, layOut_append, tokensOf_append, List.nil_append] at last
          simpa [tokensOf, layOut, found] using last
        have start : token.span.start = Text.byteLength (textOf earlier) := by
          rw [← isLast, (Placed.token?_eq_some found).1, Placed.span]
        have closed := ne_openString_of_append dividedHere (List.cons_ne_nil _ _)
        rw [rejections, placedPieces, dividedHere, start, filter_rejectionsOf,
          ← errorsOf_of_ne_openString closed, errors, layOut_append, errorsOf_append]
        simp [errorsOf, layOut, Placed.error?_of_token? found]
  | exhausted again stands finished tokens errors =>
      rw [tokens, List.replicate_succ', ← List.append_assoc, List.getLast?_concat] at last
      cases last
      cases notFinal

end

/-- However a stream is asked, it answers the tokens of the scan one by one, and the last of them
over and over; one way of asking stops once the last has been answered, the other never does.  When
it has answered a token it has reported the characters rejected before that token, and when it has
answered the last one it has reported what the scan reports. -/
theorem calls_answer_scan (source : String) (asked : List Call) :
    let run := (ofSource source ErrorLog.empty).calls asked
    (∀ index token, run.answered[index]? = some token →
      (scan source).tokens[min index ((scan source).tokens.length - 1)]? = some token) ∧
    (run.stream.call .pull).1.isSome = true ∧
    ((run.stream.call .next).1 = none ↔ ∃ token ∈ run.answered, token.isEndOfInput = true) ∧
    (∀ token, run.answered.getLast? = some token → token.isEndOfInput = false →
      run.stream.sink.errors =
        ((rejections source.toList).filter fun rejection =>
          decide (Text.byteLength rejection.before < token.span.start)).map Rejection.error) ∧
    ((∃ token ∈ run.answered, token.isEndOfInput = true) →
      run.stream.sink.errors = (scan source).errors) := by
  intro run
  have progress : Progress source.toList run.stream run.answered :=
    progress_calls source.toList asked
  have finished : run.stream.finished = true ↔
      ∃ token ∈ run.answered, token.isEndOfInput = true := by
    rw [progress.finished_eq, List.any_eq_true]
  refine ⟨?_, rfl, ?_, ?_, ?_⟩
  · intro index token here
    exact progress.getElem?_answered here
  · rw [← finished]
    cases isFinished : run.stream.finished <;> simp [call, next?, isFinished]
  · intro token last notFinal
    exact progress.errors_behind_token last notFinal
  · intro answeredLast
    exact progress.errors_of_finished (finished.mpr answeredLast)

end TokenStream

end LoxTokenizer

import LoxTokenizer.Proofs.Scan.Grammar

namespace LoxTokenizer

open Scan

/-!
# What a stream tells about itself

Beside its answers a stream tells of every error at the moment of reporting it, and of the end when it
is answered for the first time.  It can be asked for one token or for all that are left, in any order
and as often as one likes.  What a reply owes is stated by `Accounts`: its events tell the errors that
were reported meanwhile, and behind them the end if this reply is the first to answer it.

Accounts add up: two replies in a row owe together what one reply owes that answers all their tokens.
So a pull that is `Settled` settles the draining of a stream, which is pull after pull, and any
sequence of requests.
-/

/-- The requests that a stream can be met with. -/
inductive Request where
  /-- One token, at the end the last one again. -/
  | pull
  /-- One token, if the last one has not been answered yet. -/
  | next
  /-- All tokens that are left. -/
  | collect
  /-- All tokens that are left, after which the stream is given up. -/
  | scanTokens

/-- What requests are answered with, what is told meanwhile, and the stream behind them. -/
structure Reply (σ : Type) where
  tokens : List Token
  events : List ScanEvent
  stream : TokenStream σ

namespace Reply

variable {σ : Type}

/-- Nothing has been asked of a stream yet, or it refuses. -/
def nothing (stream : TokenStream σ) : Reply σ := ⟨[], [], stream⟩

/-- Two replies in a row. -/
def followedBy (first second : Reply σ) : Reply σ where
  tokens := first.tokens ++ second.tokens
  events := first.events ++ second.events
  stream := second.stream

end Reply

/-- The errors that events tell of. -/
def errorsTold (events : List ScanEvent) : List ScanError :=
  events.filterMap fun event =>
    match event with
    | .scanError error => some error
    | .scanComplete _ _ => none

@[simp] theorem errorsTold_nil : errorsTold [] = [] := rfl

@[simp] theorem errorsTold_append (first second : List ScanEvent) :
    errorsTold (first ++ second) = errorsTold first ++ errorsTold second :=
  List.filterMap_append

@[simp] theorem errorsTold_scanErrors (errors : List ScanError) :
    errorsTold (errors.map .scanError) = errors := by
  induction errors with
  | nil => rfl
  | cons error later ih => exact congrArg (error :: ·) ih

/-- What is to be told of the end of a text once some tokens have been answered: nothing before the
last token is among them, and then the number of tokens in front of it and the number of lines. -/
def completion (text : List Char) (answered : List Token) : List ScanEvent :=
  if answered.any Token.isEndOfInput then
    [.scanComplete (answered.takeWhile (!·.isEndOfInput)).length (1 + text.count '\n')]
  else []

theorem errorsTold_completion (text : List Char) (answered : List Token) :
    errorsTold (completion text answered) = [] := by
  unfold completion
  split <;> rfl

theorem completion_of_unended {answered : List Token}
    (unended : answered.any Token.isEndOfInput = false) (text : List Char) :
    completion text answered = [] := by
  rw [completion, unended]
  rfl

/-- Once the last token has been answered, later answers do not count. -/
theorem completion_append {answered : List Token}
    (ended : answered.any Token.isEndOfInput = true) (text : List Char) (more : List Token) :
    completion text (answered ++ more) = completion text answered := by
  have counted : (answered ++ more).takeWhile (!·.isEndOfInput) =
      answered.takeWhile (!·.isEndOfInput) := by
    induction answered with
    | nil => cases ended
    | cons token later ih =>
        cases isEnd : token.isEndOfInput with
        | true => simp [isEnd]
        | false =>
            rw [List.any_cons, isEnd, Bool.false_or] at ended
            rw [List.cons_append, List.takeWhile_cons, List.takeWhile_cons, ih ended]
  rw [completion, completion, counted, List.any_append, ended, Bool.true_or]

/-- The last token is told of with the number of those answered before it. -/
theorem completion_concat {answered : List Token} {token : Token}
    (unended : answered.any Token.isEndOfInput = false) (isEnd : token.isEndOfInput = true)
    (text : List Char) :
    completion text (answered ++ [token]) =
      [.scanComplete answered.length (lineBehind text)] := by
  have before : ∀ earlier ∈ answered, (!earlier.isEndOfInput) = true := by
    simpa using unended
  have counted : (answered ++ [token]).takeWhile (!·.isEndOfInput) = answered := by
    rw [List.takeWhile_append_of_pos before]
    simp [isEnd]
  rw [completion, counted, List.any_append, List.any_cons, isEnd, Bool.true_or, Bool.or_true]
  rfl

namespace TokenStream

variable {σ : Type} [ErrorSink σ]

def pullReply (stream : TokenStream σ) : Reply σ :=
  ⟨[stream.pull.token], stream.pull.events, stream.pull.stream⟩

def drainReply (stream : TokenStream σ) : Reply σ :=
  ⟨stream.drain.tokens, stream.drain.events, stream.drain.stream⟩

/-- How a stream answers a request. -/
def ask (stream : TokenStream σ) : Request → Reply σ
  | .pull => stream.pullReply
  | .next =>
      match stream.next? with
      | some pulled => ⟨[pulled.token], pulled.events, pulled.stream⟩
      | none => .nothing stream
  | .collect | .scanTokens => stream.drainReply

/-- How a stream answers one request after another. -/
def askAll (stream : TokenStream σ) (requests : List Request) : Reply σ :=
  requests.foldl (fun reply request => reply.followedBy (reply.stream.ask request))
    (.nothing stream)

/-! ## Accounts -/

/-- What is owed for tokens that are answered behind others: the events tell the errors that were
reported to the sink, and the end if it is among these tokens for the first time.  Behind the end
nothing is told. -/
structure Accounts (text : List Char) (answered : List Token) (sink : σ) (reply : Reply σ) :
    Prop where
  reported : reply.stream.sink = reportAll sink (errorsTold reply.events)
  told : reply.events = (errorsTold reply.events).map .scanError ++
    if answered.any Token.isEndOfInput then [] else completion text (answered ++ reply.tokens)
  silent : answered.any Token.isEndOfInput = true → reply.events = []

namespace Accounts

variable {text : List Char} {answered : List Token} {sink : σ}

theorem nothing (stream : TokenStream σ) (ended : answered.any Token.isEndOfInput = true) :
    Accounts text answered stream.sink (.nothing stream) where
  reported := rfl
  told := by simp [Reply.nothing, ended]
  silent := fun _ => rfl

/-- Errors that are told as they are reported, with nothing else told. -/
theorem ofErrors {reply : Reply σ} (errors : List ScanError)
    (reported : reply.stream.sink = reportAll sink errors)
    (told : reply.events = errors.map .scanError ++
      if answered.any Token.isEndOfInput then [] else completion text (answered ++ reply.tokens))
    (silent : answered.any Token.isEndOfInput = true → errors = []) :
    Accounts text answered sink reply := by
  have isTold : errorsTold reply.events = errors := by
    rw [told]
    split <;> simp [errorsTold_completion]
  refine ⟨by rw [isTold, reported], by rw [isTold, ← told], ?_⟩
  intro ended
  rw [told, silent ended, if_pos ended]
  rfl

/-- The accounts of two replies in a row add up. -/
theorem followedBy {first second : Reply σ} (here : Accounts text answered sink first)
    (later : Accounts text (answered ++ first.tokens) first.stream.sink second) :
    Accounts text answered sink (first.followedBy second) := by
  apply ofErrors (errorsTold first.events ++ errorsTold second.events)
  · rw [reportAll_append, ← here.reported]
    exact later.reported
  · change first.events ++ second.events = _ ++ if answered.any Token.isEndOfInput then [] else
      completion text (answered ++ (first.tokens ++ second.tokens))
    rw [List.map_append, ← List.append_assoc answered]
    cases endedBefore : answered.any Token.isEndOfInput with
    | true =>
        have endedHere : (answered ++ first.tokens).any Token.isEndOfInput = true := by
          rw [List.any_append, endedBefore, Bool.true_or]
        rw [here.silent endedBefore, later.silent endedHere]
        rfl
    | false =>
        have toldHere := here.told
        have toldLater := later.told
        rw [endedBefore] at toldHere
        cases endedHere : (answered ++ first.tokens).any Token.isEndOfInput with
        | true =>
            -- The first of the two replies answers the last token, so the second tells nothing.
            rw [later.silent endedHere, completion_append endedHere]
            simpa using toldHere
        | false =>
            have notYet : completion text (answered ++ first.tokens) = [] := by
              rw [completion, endedHere]
              rfl
            rw [endedHere] at toldLater
            rw [notYet] at toldHere
            rw [toldHere, toldLater]
            simp [errorsTold_completion]
  · intro endedBefore
    have endedHere : (answered ++ first.tokens).any Token.isEndOfInput = true := by
      rw [List.any_append, endedBefore, Bool.true_or]
    rw [here.silent endedBefore, later.silent endedHere]
    rfl

end Accounts

/-! ## Keeping accounts -/

/-- Where a stream is while its text is being answered.  Until the last token has been answered it
has counted the tokens it answered. -/
inductive Stage (text : List Char) (stream : TokenStream σ) (answered : List Token) : Prop where
  | underway {before unread : List Char}
      (divided : before ++ unread = text)
      (stands : stream.cursor.StandsAt before unread)
      (unfinished : stream.finished = false)
      (unended : answered.any Token.isEndOfInput = false)
      (counted : stream.produced = answered.length)
  | exhausted
      (stands : stream.cursor.StandsAt text [])
      (finished : stream.finished = true)
      (ended : answered.any Token.isEndOfInput = true)

/-- A reply that keeps its account and leaves the stream at a known stage. -/
structure Settled (text : List Char) (answered : List Token) (sink : σ) (reply : Reply σ) :
    Prop where
  accounts : Accounts text answered sink reply
  stage : Stage text reply.stream (answered ++ reply.tokens)

/-- Settled replies in a row are settled together. -/
theorem Settled.followedBy {text : List Char} {answered : List Token} {sink : σ}
    {first second : Reply σ} (here : Settled text answered sink first)
    (later : Settled text (answered ++ first.tokens) first.stream.sink second) :
    Settled text answered sink (first.followedBy second) := by
  refine ⟨here.accounts.followedBy later.accounts, ?_⟩
  have stage := later.stage
  rw [List.append_assoc] at stage
  exact stage

namespace Stage

variable {text : List Char} {stream : TokenStream σ} {answered : List Token}

omit [ErrorSink σ] in
theorem ofText (text : List Char) (sink : σ) : Stage text (ofText text sink) [] :=
  .underway (List.nil_append text) (Cursor.standsAt_ofText text) rfl rfl rfl

theorem settled_nothing (stage : Stage text stream answered) (finished : stream.finished = true) :
    Settled text answered stream.sink (.nothing stream) := by
  cases stage with
  | underway divided stands unfinished =>
      rw [unfinished] at finished
      cases finished
  | exhausted stands finished ended =>
      refine ⟨.nothing stream ended, .exhausted stands finished ?_⟩
      rwa [Reply.nothing, List.append_nil]

theorem settled_pull (stage : Stage text stream answered) :
    Settled text answered stream.sink stream.pullReply := by
  rw [pullReply]
  cases stage with
  | @underway before unread divided stands unfinished unended counted =>
      have outcome := outcome_pull stands
      generalize stream.pull = pulled at outcome ⊢
      cases outcome with
      | @token skipped piece rest token cursor dividedUnread noToken found behind =>
          have isPiece : piece ∈ pieces unread := by
            rw [dividedUnread]
            exact List.mem_append_right _ List.mem_cons_self
          have noEnd : token.isEndOfInput = false := isEndOfInput_of_token? isPiece found
          have unendedHere : (answered ++ [token]).any Token.isEndOfInput = false := by
            simp [unended, noEnd]
          have whole : before ++ textOf skipped ++ piece.text ++ rest = text := by
            rw [← divided, ← textOf_pieces unread, dividedUnread, textOf_append, textOf_cons,
              textOf_pieces]
            simp
          constructor
          · apply Accounts.ofErrors (errorsOf (layOut before skipped)) rfl
            · rw [unended, completion_of_unended unendedHere]
              simp
            · intro ended
              rw [unended] at ended
              cases ended
          · exact .underway whole behind unfinished unendedHere (by simp [counted])
      | @ending cursor noToken behind =>
          have isEnd : (Token.endOfInput (lineBehind (before ++ unread))
              (Text.byteLength (before ++ unread))).isEndOfInput = true := rfl
          constructor
          · apply Accounts.ofErrors (errorsOf (layOut before (pieces unread))) rfl
            · rw [unended, completion_concat unended isEnd, unfinished, counted, divided]
            · intro ended
              rw [unended] at ended
              cases ended
          · refine .exhausted (by rwa [← divided]) rfl ?_
            rw [List.any_append, List.any_cons, isEnd, Bool.true_or, Bool.or_true]
  | exhausted stands finished ended =>
      -- Nothing is unread, and the end has been told of.
      have outcome := outcome_pull stands
      generalize stream.pull = pulled at outcome ⊢
      cases outcome with
      | token dividedUnread => simp at dividedUnread
      | @ending cursor noToken behind =>
          constructor
          · apply Accounts.ofErrors (errorsOf (layOut text (pieces []))) rfl
            · simp [finished, ended]
            · simp [errorsOf]
          · exact .exhausted (by simpa using behind) rfl (by simp [ended])

/-- Draining settles pull by pull. -/
theorem settled_drain (stage : Stage text stream answered) :
    Settled text answered stream.sink stream.drainReply := by
  fun_induction TokenStream.drain stream generalizing answered with
  | case1 stream unfinished pulled later =>
      rename_i ih
      have asPulls : stream.drainReply =
          stream.pullReply.followedBy stream.pull.stream.drainReply := by
        rw [drainReply, drain_of_unfinished unfinished]
        rfl
      rw [asPulls]
      exact stage.settled_pull.followedBy (ih stage.settled_pull.stage)
  | case2 stream finished =>
      have isFinished : stream.finished = true := by simpa using finished
      have nothingLeft : stream.drainReply = .nothing stream := by
        rw [drainReply, drain_of_finished isFinished]
        rfl
      rw [nothingLeft]
      exact stage.settled_nothing isFinished

theorem settled_ask (stage : Stage text stream answered) (request : Request) :
    Settled text answered stream.sink (stream.ask request) := by
  cases request with
  | pull => exact stage.settled_pull
  | next =>
      cases finished : stream.finished with
      | true =>
          have refused : stream.ask .next = .nothing stream := by
            simp [ask, next?, finished]
          rw [refused]
          exact stage.settled_nothing finished
      | false =>
          have pulled : stream.ask .next = stream.pullReply := by
            simp [ask, next?, finished, pullReply]
          rw [pulled]
          exact stage.settled_pull
  | collect => exact stage.settled_drain
  | scanTokens => exact stage.settled_drain

end Stage

theorem Settled.foldl_ask {text : List Char} {sink : σ} {reply : Reply σ}
    (settled : Settled text [] sink reply) (requests : List Request) :
    Settled text [] sink
      (requests.foldl (fun reply request => reply.followedBy (reply.stream.ask request)) reply) := by
  induction requests generalizing reply with
  | nil => exact settled
  | cons request later ih => exact ih (settled.followedBy (settled.stage.settled_ask request))

/-- Whatever is asked of a stream, it is settled. -/
theorem settled_askAll (text : List Char) (sink : σ) (requests : List Request) :
    Settled text [] sink ((ofText text sink).askAll requests) :=
  Settled.foldl_ask ⟨⟨rfl, rfl, fun _ => rfl⟩, .ofText text sink⟩ requests

/-- In whatever order a stream is asked for one token or for all of them, it tells of each error when
it reports it to its sink, and after all errors, once, of the end: the request that is the first to
answer the last token tells of it, with the number of tokens answered before and the number of lines.
Later requests tell nothing. -/
theorem askAll_tells (source : String) (sink : σ) (requests : List Request) (request : Request) :
    let replies := (ofSource source sink).askAll requests
    let reply := replies.stream.ask request
    (replies.stream.sink = reportAll sink (errorsTold replies.events) ∧
      replies.events =
        (errorsTold replies.events).map .scanError ++
          completion source.toList replies.tokens) ∧
    reply.stream.sink = reportAll replies.stream.sink (errorsTold reply.events) ∧
    (replies.tokens.any Token.isEndOfInput = false →
      reply.events =
        (errorsTold reply.events).map .scanError ++
          completion source.toList (replies.tokens ++ reply.tokens)) ∧
    (replies.tokens.any Token.isEndOfInput = true → reply.events = []) := by
  intro replies reply
  have all : Settled source.toList [] sink replies := settled_askAll source.toList sink requests
  have next : Accounts source.toList replies.tokens replies.stream.sink reply :=
    (all.stage.settled_ask request).accounts
  refine ⟨⟨all.accounts.reported, ?_⟩, next.reported, ?_, next.silent⟩
  · exact all.accounts.told
  · intro unended
    have notYet : ¬ replies.tokens.any Token.isEndOfInput = true := by
      rw [unended]
      exact Bool.false_ne_true
    exact next.told.trans (congrArg (_ ++ ·) (if_neg notYet))

end TokenStream
end LoxTokenizer

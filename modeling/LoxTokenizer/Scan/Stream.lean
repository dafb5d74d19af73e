import LoxTokenizer.Scan.Finding
import LoxTokenizer.Token.Basic

namespace LoxTokenizer

/-!
Scanning on demand.  A `TokenStream` moves a cursor through its source, reads one piece after
another until a piece is a token, and reports the problems it meets to its sink at that moment,
never before.  Once the text is used up it keeps answering the same token.
-/

/-- A scan in progress: where it stands, how many tokens have been handed out, whether the end has
been reached, and where errors go. -/
structure TokenStream (σ : Type) where
  cursor : Cursor
  produced : Nat
  finished : Bool
  sink : σ

/-- One token taken from a stream, what was told while looking for it, and the stream behind it. -/
structure Pull (σ : Type) where
  token : Token
  events : List ScanEvent
  stream : TokenStream σ

/-- Everything that was left in a stream, and the stream that has nothing left. -/
structure Drained (σ : Type) where
  tokens : List Token
  events : List ScanEvent
  stream : TokenStream σ

namespace TokenStream

variable {σ : Type} [ErrorSink σ]

def ofText (text : List Char) (sink : σ) : TokenStream σ where
  cursor := .ofText text
  produced := 0
  finished := false
  sink := sink

def ofSource (source : String) (sink : σ) : TokenStream σ := ofText source.toList sink

/-- The token at the end of the text, which is told of the first time only. -/
def atEnd (stream : TokenStream σ) : Pull σ where
  token := Token.endOfInput stream.cursor.line stream.cursor.current
  events :=
    if stream.finished then [] else [.scanComplete stream.produced stream.cursor.line]
  stream := { stream with finished := true }

/-- Takes the next token.  Every piece starts a lexeme of its own, and a token is on the line where
its lexeme starts. -/
def pull (stream : TokenStream σ) : Pull σ :=
  let marked := stream.cursor.markStart
  match _ : marked.advance? with
  | none => atEnd { stream with cursor := marked }
  | some (first, passed) =>
      let reading := Scan.read first passed
      match reading.finding with
      | .token kind =>
          { token :=
              { kind
                lexeme := String.ofList (Scan.lexemeOf reading.cursor)
                line := marked.line
                span := ⟨reading.cursor.start, reading.cursor.current⟩ }
            events := []
            stream := { stream with cursor := reading.cursor, produced := stream.produced + 1 } }
      | .nothing => pull { stream with cursor := reading.cursor }
      | .problem error =>
          let later := pull
            { stream with cursor := reading.cursor, sink := ErrorSink.report stream.sink error }
          { later with events := .scanError error :: later.events }
termination_by stream.cursor.unread.length
decreasing_by all_goals exact Scan.length_unread_read_lt ‹_›

/-- The next token, until the one that ends the list has been handed out. -/
def next? (stream : TokenStream σ) : Option (Pull σ) :=
  if stream.finished then none else some stream.pull

/-- Whoever has not yet reached the end has this much to go. -/
def remainingSteps (stream : TokenStream σ) : Nat :=
  if stream.finished then 0 else stream.cursor.unread.length + 1

theorem remainingSteps_pull_le (stream : TokenStream σ) :
    stream.pull.stream.remainingSteps ≤ stream.cursor.unread.length := by
  fun_induction pull stream with
  | case1 => simp [atEnd, remainingSteps]
  | case2 stream marked first passed advanced =>
      have shorter := Scan.length_unread_read_lt advanced
      unfold remainingSteps
      split
      · exact Nat.zero_le _
      · exact shorter
  | case3 stream marked first passed advanced reading found ih =>
      exact Nat.le_trans ih (Nat.le_of_lt (Scan.length_unread_read_lt advanced))
  | case4 stream marked first passed advanced reading error found later ih =>
      exact Nat.le_trans ih (Nat.le_of_lt (Scan.length_unread_read_lt advanced))

/-- Each pull brings an unfinished stream nearer to its end. -/
theorem remainingSteps_pull_lt (stream : TokenStream σ) (unfinished : stream.finished = false) :
    stream.pull.stream.remainingSteps < stream.remainingSteps := by
  rw [remainingSteps.eq_def stream, unfinished]
  exact Nat.lt_succ_of_le stream.remainingSteps_pull_le

/-- Takes all remaining tokens, the one that ends the list included. -/
def drain (stream : TokenStream σ) : Drained σ :=
  if stream.finished = false then
    let pulled := stream.pull
    let later := drain pulled.stream
    { tokens := pulled.token :: later.tokens
      events := pulled.events ++ later.events
      stream := later.stream }
  else { tokens := [], events := [], stream }
termination_by stream.remainingSteps
decreasing_by exact remainingSteps_pull_lt stream ‹_›

end TokenStream

end LoxTokenizer

import LoxTokenizer.Proofs.Scan.Calls
import LoxTokenizer.Proofs.Text.Slice

namespace LoxTokenizer

open Scan

/-!
# Moving a cursor

A cursor keeps two places and the text from each of them on.  That these belong together is its
invariant, `Cursor.Within`: the places are in order and between characters of the text, and what is
marked and what is unread is the text behind them.  Each move of a cursor keeps the invariant, so it
holds wherever moves lead.

Scanning does nothing to a cursor but move it.  `Scan.Comes` tells the cursors at which a scan starts
to read a piece, and the moves of a cursor lead to all of them.
-/

namespace Cursor

/-- The invariant of a cursor over a text. -/
structure Within (text : List Char) (cursor : Cursor) : Prop where
  /-- The places are in order, inside the text and between its characters. -/
  slice : Text.IsSlice text cursor.start cursor.current
  marked : Text.fromByte? cursor.start text = some cursor.marked
  unread : Text.fromByte? cursor.current text = some cursor.unread

theorem within_standing {before lexeme unread text : List Char}
    (divided : before ++ lexeme ++ unread = text) (line : Nat) :
    (standing before lexeme unread line).Within text := by
  subst divided
  refine ⟨Text.isSlice_append before lexeme unread, ?_, Text.fromByte?_append _ unread⟩
  rw [List.append_assoc]
  exact Text.fromByte?_append before (lexeme ++ unread)

/-- A cursor over a text divides it in three. -/
theorem Within.exists_standing {text : List Char} {cursor : Cursor} (within : cursor.Within text) :
    ∃ before lexeme unread line, before ++ lexeme ++ unread = text ∧
      cursor = standing before lexeme unread line := by
  rcases cursor with ⟨marked, unread, start, current, line⟩
  rcases within with ⟨slice, isMarked, isUnread⟩
  rcases Text.isSlice_iff.mp slice with ⟨lexeme, cut⟩
  rcases Text.betweenBytes?_eq_some_iff.mp cut with ⟨before, behind, divided, starts, stops⟩
  dsimp only at isMarked isUnread starts stops
  have sameUnread : unread = behind := by
    rw [← stops, ← divided, Text.fromByte?_append] at isUnread
    exact (Option.some.inj isUnread).symm
  have sameMarked : marked = lexeme ++ behind := by
    rw [← starts, ← divided, List.append_assoc, Text.fromByte?_append] at isMarked
    exact (Option.some.inj isMarked).symm
  refine ⟨before, lexeme, behind, line, divided, ?_⟩
  rw [sameMarked, sameUnread, ← starts, ← stops]
  rfl

theorem within_ofText (text : List Char) : (ofText text).Within text :=
  have divided : [] ++ [] ++ text = text := rfl
  within_standing divided 1

/-- The lexeme that a cursor cuts out is the text between its places. -/
theorem Within.lexeme?_eq {text : List Char} {cursor : Cursor} (within : cursor.Within text) :
    cursor.lexeme? = Text.betweenBytes? cursor.start cursor.current text := by
  rcases within.exists_standing with ⟨before, lexeme, unread, line, rfl, rfl⟩
  rw [lexeme?_standing]
  exact (Text.betweenBytes?_append before lexeme unread).symm

/-- Where a lexeme has just been started, the first character of it stands right behind all earlier
text. -/
theorem Within.exists_passed {text : List Char} {cursor passed : Cursor} {first : Char}
    (within : cursor.Within text) (advanced : cursor.markStart.advance? = some (first, passed)) :
    ∃ before following line, before ++ first :: following = text ∧
      passed = standing before [first] following line := by
  rcases within.exists_standing with ⟨before, lexeme, unread, line, divided, rfl⟩
  rw [markStart_standing] at advanced
  cases unread with
  | nil => cases advanced
  | cons char rest =>
      rw [advance?_standing_cons] at advanced
      cases advanced
      exact ⟨before ++ lexeme, rest, line, divided, rfl⟩

/-! ## Moves -/

/-- What can be done to a cursor. -/
inductive Move where
  | markStart
  | newline
  /-- Passes the next character, if there is one. -/
  | advance
  | matchChar (expected : Char)
  | eatWhile (wanted : Char → Bool)

def move (cursor : Cursor) : Move → Cursor
  | .markStart => cursor.markStart
  | .newline => cursor.newline
  | .advance => cursor.skip
  | .matchChar expected => (cursor.matchChar expected).2
  | .eatWhile wanted => cursor.eatWhile wanted

/-- A move keeps the invariant. -/
theorem Within.move {text : List Char} {cursor : Cursor} (within : cursor.Within text)
    (move : Move) : (cursor.move move).Within text := by
  rcases within.exists_standing with ⟨before, lexeme, unread, line, divided, rfl⟩
  cases move with
  | markStart =>
      rw [Cursor.move, markStart_standing]
      exact within_standing (by rwa [List.append_nil]) line
  | newline => exact within_standing divided (line + 1)
  | advance =>
      cases unread with
      | nil => exact within
      | cons char rest =>
          rw [Cursor.move, skip_standing_cons]
          exact within_standing (by simpa using divided) line
  | matchChar expected =>
      rcases head_shapes expected unread with ⟨rest, rfl⟩ | other
      · rw [Cursor.move, matchChar_standing_self]
        exact within_standing (by simpa using divided) line
      · rw [Cursor.move, matchChar_standing_of_ne _ _ _ _ other]
        exact within
  | eatWhile wanted =>
      rw [Cursor.move, eatWhile_standing]
      refine within_standing ?_ line
      rw [← List.append_assoc before, List.append_assoc (before ++ lexeme),
        List.takeWhile_append_dropWhile, divided]

/-- A cursor that some moves lead to, one after another. -/
def Leads (cursor later : Cursor) : Prop := ∃ moves : List Move, moves.foldl Cursor.move cursor = later

theorem Leads.refl (cursor : Cursor) : cursor.Leads cursor := ⟨[], rfl⟩

theorem Leads.trans {first second third : Cursor} (here : first.Leads second)
    (onward : second.Leads third) : first.Leads third := by
  rcases here with ⟨moves, rfl⟩
  rcases onward with ⟨more, rfl⟩
  exact ⟨moves ++ more, List.foldl_append⟩

theorem leads_move (cursor : Cursor) (move : Move) : cursor.Leads (cursor.move move) := ⟨[move], rfl⟩

/-- Wherever moves lead, the invariant is kept. -/
theorem Within.leads {text : List Char} {cursor later : Cursor} (within : cursor.Within text)
    (leads : cursor.Leads later) : later.Within text := by
  rcases leads with ⟨moves, rfl⟩
  induction moves generalizing cursor with
  | nil => exact within
  | cons move moves ih => exact ih (within.move move)

theorem leads_skip (cursor : Cursor) : cursor.Leads cursor.skip := cursor.leads_move .advance

theorem leads_eatWhile (wanted : Char → Bool) (cursor : Cursor) :
    cursor.Leads (cursor.eatWhile wanted) :=
  cursor.leads_move (.eatWhile wanted)

theorem leads_matchChar (expected : Char) (cursor : Cursor) :
    cursor.Leads (cursor.matchChar expected).2 :=
  cursor.leads_move (.matchChar expected)

theorem leads_of_advance? {cursor passed : Cursor} {first : Char}
    (advanced : cursor.advance? = some (first, passed)) : cursor.Leads passed := by
  have skipped : cursor.skip = passed := by
    rw [skip, advanced]
  rw [← skipped]
  exact cursor.leads_skip

theorem leads_eatToQuote (cursor : Cursor) : cursor.Leads cursor.eatToQuote := by
  fun_induction eatToQuote cursor with
  | case1 cursor => exact .refl cursor
  | case2 cursor char next notQuote ih =>
      refine Leads.trans ?_ ih
      split
      · exact (cursor.leads_move .newline).trans cursor.newline.leads_skip
      · exact cursor.leads_skip
  | case3 cursor => exact .refl cursor

end Cursor

/-! ## Scanning moves the cursor -/

namespace Scan

open Cursor

theorem leads_readMark (alone extended : Token.Punctuator) (cursor : Cursor) :
    cursor.Leads (readMark alone extended cursor).cursor := by
  have matched := leads_matchChar '=' cursor
  unfold readMark
  split
  · rename_i passed same
    rwa [same] at matched
  · rename_i stopped same
    rwa [same] at matched

theorem leads_readSlash (cursor : Cursor) : cursor.Leads (readSlash cursor).cursor := by
  have matched := leads_matchChar '/' cursor
  unfold readSlash
  split
  · rename_i passed same
    rw [same] at matched
    exact matched.trans (leads_eatWhile _ passed)
  · rename_i stopped same
    rwa [same] at matched

theorem leads_readString (cursor : Cursor) : cursor.Leads (readString cursor).cursor := by
  have stopped := cursor.leads_eatToQuote
  simp only [readString]
  split
  · exact stopped
  · exact stopped.trans (leads_skip _)

theorem leads_readNumber (cursor : Cursor) : cursor.Leads (readNumber cursor).cursor := by
  have stopped := leads_eatWhile Char.isDigit cursor
  simp only [readNumber, eatPlaces]
  split
  · exact stopped.trans ((leads_skip _).trans (leads_eatWhile _ _))
  · exact stopped

/-- Reading a piece is a matter of some moves. -/
theorem leads_read (first : Char) (cursor : Cursor) : cursor.Leads (read first cursor).cursor := by
  unfold read
  split
  · exact .refl cursor
  · split
    · exact leads_readMark _ _ cursor
    · split
      · exact leads_readSlash cursor
      · split
        · exact cursor.leads_move .newline
        · split
          · exact .refl cursor
          · split
            · exact leads_readString cursor
            · split
              · exact leads_readNumber cursor
              · split
                · exact leads_eatWhile isNamePart cursor
                · exact .refl cursor

/-- The cursors that the scan of a text comes to between pieces. -/
inductive Comes (text : List Char) : Cursor → Prop where
  | start : Comes text (.ofText text)
  | onward {cursor passed : Cursor} {first : Char} (here : Comes text cursor)
      (advanced : cursor.markStart.advance? = some (first, passed)) :
      Comes text (read first passed).cursor
  | ending {cursor : Cursor} (here : Comes text cursor)
      (ended : cursor.markStart.advance? = none) : Comes text cursor.markStart

theorem leads_piece {cursor passed : Cursor} {first : Char}
    (advanced : cursor.markStart.advance? = some (first, passed)) :
    cursor.Leads (read first passed).cursor :=
  ((cursor.leads_move .markStart).trans (leads_of_advance? advanced)).trans (leads_read first passed)

theorem Comes.leads {text : List Char} {cursor : Cursor} (comes : Comes text cursor) :
    (ofText text).Leads cursor := by
  induction comes with
  | start => exact .refl _
  | onward here advanced ih => exact ih.trans (leads_piece advanced)
  | @ending cursor here ended ih => exact ih.trans (cursor.leads_move .markStart)

theorem Comes.within {text : List Char} {cursor : Cursor} (comes : Comes text cursor) :
    cursor.Within text :=
  (within_ofText text).leads comes.leads

end Scan

namespace TokenStream

variable {σ : Type} [ErrorSink σ] {text : List Char}

theorem comes_pull {stream : TokenStream σ} (here : Comes text stream.cursor) :
    Comes text stream.pull.stream.cursor := by
  fun_induction pull stream with
  | case1 stream marked ended => exact .ending here ended
  | case2 stream marked first passed advanced => exact .onward here advanced
  | case3 stream marked first passed advanced reading found ih => exact ih (.onward here advanced)
  | case4 stream marked first passed advanced reading error found later ih =>
      exact ih (.onward here advanced)

theorem comes_call {run : Run σ} (call : Call) (here : Comes text run.stream.cursor) :
    Comes text (run.call call).stream.cursor := by
  cases call with
  | pull => exact comes_pull here
  | next =>
      cases finished : run.stream.finished with
      | true => simpa [Run.call, TokenStream.call, next?, finished] using here
      | false => simpa [Run.call, TokenStream.call, next?, finished] using comes_pull here

/-- However a stream is asked, it stands where the scan of its text comes to. -/
theorem comes_calls (sink : σ) (asked : List Call) :
    Comes text ((ofText text sink).calls asked).stream.cursor := by
  have onward : ∀ (run : Run σ), Comes text run.stream.cursor →
      Comes text (asked.foldl Run.call run).stream.cursor := by
    induction asked with
    | nil => exact fun run here => here
    | cons call rest ih => exact fun run here => ih (run.call call) (comes_call call here)
  exact onward ⟨[], ofText text sink⟩ .start

end TokenStream

end LoxTokenizer

import LoxTokenizer.Number.Numeral
import LoxTokenizer.Scan.Character
import LoxTokenizer.Scan.Cursor
import LoxTokenizer.Scan.Error
import LoxTokenizer.Token.Keyword

namespace LoxTokenizer
namespace Scan

/-!
Reading one piece of source text with a cursor.  The first character has been passed and decides
what is read; no more than two characters are looked at ahead of the cursor.  What is read is a
token, or a problem to be reported, or neither.
-/

/-- What one piece of source text turns out to be. -/
inductive Finding where
  | token (kind : Token.Kind)
  /-- A blank or a comment. -/
  | nothing
  | problem (error : ScanError)
  deriving DecidableEq

/-- A finding, and the cursor behind what was read. -/
structure Reading where
  finding : Finding
  cursor : Cursor
  deriving DecidableEq

/-- The lexeme that a cursor has read.  The cut always exists while a source is being scanned. -/
def lexemeOf (cursor : Cursor) : List Char := cursor.lexeme?.getD []

/-- The text inside the quotes that a cursor has read. -/
def innerOf (cursor : Cursor) : List Char := cursor.inner?.getD []

/-- A mark that an equals sign extends. -/
def readMark (alone extended : Token.Punctuator) (cursor : Cursor) : Reading :=
  match cursor.matchChar '=' with
  | (true, passed) => ⟨.token (.punctuator extended), passed⟩
  | (false, stopped) => ⟨.token (.punctuator alone), stopped⟩

/-- A slash, or a comment.  The end of the line does not belong to the comment. -/
def readSlash (cursor : Cursor) : Reading :=
  match cursor.matchChar '/' with
  | (true, passed) => ⟨.nothing, passed.eatWhile (· != '\n')⟩
  | (false, stopped) => ⟨.token (.punctuator .slash), stopped⟩

/-- A string.  One that is never closed is reported on the line where the text ends. -/
def readString (cursor : Cursor) : Reading :=
  let stopped := cursor.eatToQuote
  match stopped.peek? with
  | none => ⟨.problem (.unterminatedString stopped.line), stopped⟩
  | some _ =>
      let closed := stopped.skip
      ⟨.token (.string (String.ofList (innerOf closed))), closed⟩

/-- The digits behind a point, provided that there is one of them. -/
def eatPlaces (cursor : Cursor) : Cursor :=
  if cursor.peek? = some '.' ∧ cursor.peekNext?.any Char.isDigit then
    cursor.skip.eatWhile Char.isDigit
  else cursor

def readNumber (cursor : Cursor) : Reading :=
  let stopped := eatPlaces (cursor.eatWhile Char.isDigit)
  ⟨.token (.number (Number.numeralValue (lexemeOf stopped))), stopped⟩

/-- A name, which is looked up among the reserved words when all of it has been read. -/
def readName (cursor : Cursor) : Reading :=
  let stopped := cursor.eatWhile isNamePart
  ⟨.token (.ofName (String.ofList (lexemeOf stopped))), stopped⟩

/-- Reads the piece that starts with a character just passed. -/
def read (first : Char) (cursor : Cursor) : Reading :=
  match soleMark? first with
  | some mark => ⟨.token (.punctuator mark), cursor⟩
  | none =>
      match equalMarks? first with
      | some (alone, extended) => readMark alone extended cursor
      | none =>
          if first = '/' then readSlash cursor
          else if first = '\n' then ⟨.nothing, cursor.newline⟩
          else if isBlank first then ⟨.nothing, cursor⟩
          else if first = '"' then readString cursor
          else if first.isDigit then readNumber cursor
          else if isNameStart first then readName cursor
          else ⟨.problem (.unexpectedCharacter cursor.line first), cursor⟩

/-! Reading a piece only moves the cursor forward. -/

theorem length_unread_readMark_le (alone extended : Token.Punctuator) (cursor : Cursor) :
    (readMark alone extended cursor).cursor.unread.length ≤ cursor.unread.length := by
  have matched := cursor.length_unread_matchChar_le '='
  unfold readMark
  split
  · rename_i passed same
    rwa [same] at matched
  · rename_i stopped same
    rwa [same] at matched

theorem length_unread_readSlash_le (cursor : Cursor) :
    (readSlash cursor).cursor.unread.length ≤ cursor.unread.length := by
  have matched := cursor.length_unread_matchChar_le '/'
  unfold readSlash
  split
  · rename_i passed same
    rw [same] at matched
    exact Nat.le_trans (Cursor.length_unread_eatWhile_le _ _) matched
  · rename_i stopped same
    rwa [same] at matched

theorem length_unread_readString_le (cursor : Cursor) :
    (readString cursor).cursor.unread.length ≤ cursor.unread.length := by
  have stopped := cursor.length_unread_eatToQuote_le
  simp only [readString]
  split
  · exact stopped
  · exact Nat.le_trans (Cursor.length_unread_skip_le _) stopped

theorem length_unread_readNumber_le (cursor : Cursor) :
    (readNumber cursor).cursor.unread.length ≤ cursor.unread.length := by
  have stopped := cursor.length_unread_eatWhile_le Char.isDigit
  simp only [readNumber, eatPlaces]
  split
  · exact Nat.le_trans (Cursor.length_unread_eatWhile_le _ _)
      (Nat.le_trans (Cursor.length_unread_skip_le _) stopped)
  · exact stopped

theorem length_unread_readName_le (cursor : Cursor) :
    (readName cursor).cursor.unread.length ≤ cursor.unread.length :=
  cursor.length_unread_eatWhile_le isNamePart

/-- Reading a piece never leaves more to read than there was behind its first character. -/
theorem length_unread_read_le (first : Char) (cursor : Cursor) :
    (read first cursor).cursor.unread.length ≤ cursor.unread.length := by
  unfold read
  split
  · exact Nat.le_refl _
  · split
    · exact length_unread_readMark_le _ _ cursor
    · split
      · exact length_unread_readSlash_le cursor
      · split
        · exact Nat.le_refl _
        · split
          · exact Nat.le_refl _
          · split
            · exact length_unread_readString_le cursor
            · split
              · exact length_unread_readNumber_le cursor
              · split
                · exact length_unread_readName_le cursor
                · exact Nat.le_refl _

/-- Reading a piece from a cursor leaves less to read. -/
theorem length_unread_read_lt {cursor passed : Cursor} {first : Char}
    (advanced : cursor.markStart.advance? = some (first, passed)) :
    (read first passed).cursor.unread.length < cursor.unread.length := by
  refine Nat.lt_of_le_of_lt (length_unread_read_le first passed) ?_
  cases cursor with
  | mk marked unread start current line =>
      cases unread with
      | nil => cases advanced
      | cons char rest =>
          cases advanced
          exact Nat.lt_succ_self _

end Scan
end LoxTokenizer

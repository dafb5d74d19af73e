import LoxTokenizer.Text.Bytes

namespace LoxTokenizer

/-!
A cursor over source text.  It knows the place where the lexeme being read starts, the place of the
next character and the line reached, and it only moves forward.  Places are byte offsets.  The line
is counted by whoever moves the cursor: passing a character does not count it.

A lexeme is cut out of the text by its two places.  Such a cut need not exist, since a place may lie
outside the text or inside a character; `lexeme?` and `inner?` say so.  The text is kept from the
start of the lexeme on, so that taking a lexeme does not walk through the source again.
-/

/-- A place in a text and the lexeme that is being read there. -/
structure Cursor where
  /-- The text from the start of the lexeme on. -/
  marked : List Char
  /-- The text that has not been passed yet. -/
  unread : List Char
  start : Nat
  current : Nat
  line : Nat
  deriving DecidableEq

namespace Cursor

def ofText (text : List Char) : Cursor where
  marked := text
  unread := text
  start := 0
  current := 0
  line := 1

def advance? (cursor : Cursor) : Option (Char × Cursor) :=
  match cursor.unread with
  | [] => none
  | char :: rest =>
      some (char, { cursor with unread := rest, current := cursor.current + char.utf8Size })

def peek? (cursor : Cursor) : Option Char := cursor.unread.head?

/-- The character behind the next one. -/
def peekNext? (cursor : Cursor) : Option Char := (cursor.unread.drop 1).head?

def skip (cursor : Cursor) : Cursor :=
  match cursor.advance? with
  | some (_, passed) => passed
  | none => cursor

def newline (cursor : Cursor) : Cursor := { cursor with line := cursor.line + 1 }

/-- Starts a lexeme at the next character. -/
def markStart (cursor : Cursor) : Cursor :=
  { cursor with marked := cursor.unread, start := cursor.current }

/-- Passes the next character if it is the expected one, and says whether it was. -/
def matchChar (expected : Char) (cursor : Cursor) : Bool × Cursor :=
  if cursor.peek? = some expected then (true, cursor.skip) else (false, cursor)

/-- Where a character comes next, passing it leaves less to read. -/
theorem length_unread_skip_lt {cursor : Cursor} {char : Char} (next : cursor.peek? = some char) :
    cursor.skip.unread.length < cursor.unread.length := by
  cases cursor with
  | mk marked unread start current line =>
      cases unread with
      | nil => simp [peek?] at next
      | cons char rest => exact Nat.lt_succ_self _

/-- Passes characters for as long as they are wanted. -/
def eatWhile (wanted : Char → Bool) (cursor : Cursor) : Cursor :=
  match _ : cursor.peek? with
  | some char => if wanted char then eatWhile wanted cursor.skip else cursor
  | none => cursor
termination_by cursor.unread.length
decreasing_by exact length_unread_skip_lt ‹_›

/-- Passes characters up to a double quote or the end of the text, and counts the lines on the
way. -/
def eatToQuote (cursor : Cursor) : Cursor :=
  match _ : cursor.peek? with
  | some char =>
      if char = '"' then cursor
      else eatToQuote (if char = '\n' then cursor.newline.skip else cursor.skip)
  | none => cursor
termination_by cursor.unread.length
decreasing_by
  split
  · exact length_unread_skip_lt (show cursor.newline.peek? = some _ from ‹_›)
  · exact length_unread_skip_lt ‹_›

/-! No operation brings back what has been passed. -/

theorem length_unread_skip_le (cursor : Cursor) :
    cursor.skip.unread.length ≤ cursor.unread.length := by
  cases next : cursor.peek? with
  | none =>
      have ended : cursor.unread = [] := List.head?_eq_none_iff.mp next
      simp [skip, advance?, ended]
  | some char => exact Nat.le_of_lt (length_unread_skip_lt next)

theorem length_unread_matchChar_le (expected : Char) (cursor : Cursor) :
    (cursor.matchChar expected).2.unread.length ≤ cursor.unread.length := by
  unfold matchChar
  split
  · exact length_unread_skip_le cursor
  · exact Nat.le_refl _

theorem length_unread_eatWhile_le (wanted : Char → Bool) (cursor : Cursor) :
    (cursor.eatWhile wanted).unread.length ≤ cursor.unread.length := by
  fun_induction eatWhile wanted cursor with
  | case1 cursor char next isWanted ih => exact Nat.le_trans ih (length_unread_skip_le cursor)
  | case2 => exact Nat.le_refl _
  | case3 => exact Nat.le_refl _

theorem length_unread_eatToQuote_le (cursor : Cursor) :
    cursor.eatToQuote.unread.length ≤ cursor.unread.length := by
  fun_induction eatToQuote cursor with
  | case1 => exact Nat.le_refl _
  | case2 cursor char next notQuote ih =>
      refine Nat.le_trans ih ?_
      split
      · exact length_unread_skip_le cursor.newline
      · exact length_unread_skip_le cursor
  | case3 => exact Nat.le_refl _

/-- The number of bytes passed since the lexeme started. -/
def extent (cursor : Cursor) : Nat := cursor.current - cursor.start

/-- The lexeme: the text between the two places. -/
def lexeme? (cursor : Cursor) : Option (List Char) :=
  Text.betweenBytes? 0 cursor.extent cursor.marked

/-- The lexeme without its first and its last byte. -/
def inner? (cursor : Cursor) : Option (List Char) :=
  Text.betweenBytes? 1 (cursor.extent - 1) cursor.marked

end Cursor

end LoxTokenizer

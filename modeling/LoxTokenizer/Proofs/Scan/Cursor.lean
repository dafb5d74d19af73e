import LoxTokenizer.Scan.Cursor

namespace LoxTokenizer

/-!
# Where a cursor stands

A cursor over a text divides it in three: what lies before the lexeme, the lexeme read so far, and
what is unread.  `Cursor.standing` is the cursor that belongs to such a division and a line, and each
operation of cursors is described by the division it leads to.  Both places of a cursor are then
places in the text between two characters, and the lexeme can always be cut out.

Lines are left open here.  That a cursor's line is the line of the text passed so far is a matter of
those who count it, and is stated where pieces are read.
-/

namespace Cursor

/-- The cursor behind `before` and the lexeme `lexeme`, in front of `unread`. -/
def standing (before lexeme unread : List Char) (line : Nat) : Cursor where
  marked := lexeme ++ unread
  unread := unread
  start := Text.byteLength before
  current := Text.byteLength (before ++ lexeme)
  line := line

variable (before lexeme unread rest : List Char) (char : Char) (line : Nat)

@[simp] theorem start_standing :
    (standing before lexeme unread line).start = Text.byteLength before := rfl

@[simp] theorem current_standing :
    (standing before lexeme unread line).current = Text.byteLength (before ++ lexeme) := rfl

@[simp] theorem line_standing : (standing before lexeme unread line).line = line := rfl

@[simp] theorem markStart_standing :
    (standing before lexeme unread line).markStart =
      standing (before ++ lexeme) [] unread line := by
  simp [standing, markStart]

@[simp] theorem newline_standing :
    (standing before lexeme unread line).newline =
      standing before lexeme unread (line + 1) := rfl

@[simp] theorem advance?_standing_nil :
    (standing before lexeme [] line).advance? = none := rfl

@[simp] theorem advance?_standing_cons :
    (standing before lexeme (char :: rest) line).advance? =
      some (char, standing before (lexeme ++ [char]) rest line) := by
  simp [standing, advance?, Nat.add_assoc]

@[simp] theorem peek?_standing : (standing before lexeme unread line).peek? = unread.head? := rfl

@[simp] theorem peekNext?_standing :
    (standing before lexeme unread line).peekNext? = (unread.drop 1).head? := rfl

@[simp] theorem skip_standing_cons :
    (standing before lexeme (char :: rest) line).skip =
      standing before (lexeme ++ [char]) rest line := by
  simp [skip]

@[simp] theorem matchChar_standing_self :
    (standing before lexeme (char :: rest) line).matchChar char =
      (true, standing before (lexeme ++ [char]) rest line) := by
  simp [matchChar]

theorem matchChar_standing_of_ne {expected : Char} (other : unread.head? ≠ some expected) :
    (standing before lexeme unread line).matchChar expected =
      (false, standing before lexeme unread line) := by
  simp [matchChar, other]

/-- Passing what is wanted moves a whole run of characters into the lexeme. -/
theorem eatWhile_standing (wanted : Char → Bool) :
    (standing before lexeme unread line).eatWhile wanted =
      standing before (lexeme ++ unread.takeWhile wanted) (unread.dropWhile wanted) line := by
  induction unread generalizing lexeme with
  | nil =>
      rw [eatWhile]
      simp
  | cons char rest ih =>
      rw [eatWhile]
      cases isWanted : wanted char <;> simp [isWanted, ih]

/-- Passing characters up to a quote counts each line feed among them. -/
theorem eatToQuote_standing :
    (standing before lexeme unread line).eatToQuote =
      standing before (lexeme ++ unread.takeWhile (· != '"')) (unread.dropWhile (· != '"'))
        (line + (unread.takeWhile (· != '"')).count '\n') := by
  induction unread generalizing lexeme line with
  | nil =>
      rw [eatToQuote]
      simp
  | cons char rest ih =>
      rw [eatToQuote]
      by_cases quote : char = '"'
      · simp [quote]
      · by_cases feed : char = '\n'
        · subst feed
          simp [ih, Nat.add_assoc, Nat.add_comm 1]
        · simp [quote, feed, ih]

theorem extent_standing :
    (standing before lexeme unread line).extent = Text.byteLength lexeme := by
  simp [extent]

/-- The lexeme can be cut out of the text, and is what was read. -/
theorem lexeme?_standing : (standing before lexeme unread line).lexeme? = some lexeme := by
  rw [lexeme?, extent_standing]
  simp [standing, Text.betweenBytes?, Text.fromByte?, Text.splitAtByte?_append, Text.splitAtByte?]

/-- Between two quotes the inside of the lexeme can be cut out too. -/
theorem inner?_standing (inside : List Char) :
    (standing before ('"' :: inside ++ ['"']) unread line).inner? = some inside := by
  have quoteSize : '"'.utf8Size = 1 := by decide
  have extent : Text.byteLength ('"' :: inside ++ ['"']) - 1 =
      Text.byteLength ('"' :: inside) := by
    simp only [Text.byteLength_append, Text.byteLength_cons, Text.byteLength_nil, quoteSize]
    omega
  have divided : ('"' :: inside ++ ['"']) ++ unread = ('"' :: inside) ++ ('"' :: unread) := by
    simp
  have opening : Text.splitAtByte? 1 ('"' :: inside) = some (['"'], inside) :=
    Text.splitAtByte?_append ['"'] inside
  rw [inner?, extent_standing, extent]
  simp only [standing, divided, Text.betweenBytes?, Text.splitAtByte?_append, Option.bind_some,
    Text.fromByte?, opening, Option.map_some]

end Cursor

end LoxTokenizer

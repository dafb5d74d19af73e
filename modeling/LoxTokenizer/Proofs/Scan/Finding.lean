import LoxTokenizer.Proofs.Scan.Cursor
import LoxTokenizer.Proofs.Scan.Cut
import LoxTokenizer.Proofs.Scan.Placement
import LoxTokenizer.Scan.Finding

namespace LoxTokenizer
namespace Scan

open Text (IsRun)

/-!
# Reading is cutting

A cursor that has passed the first character of a piece reads exactly the piece that is cut off
there, and stops where the cut does.  The line counter follows: it grows by the line feeds of the
piece, although they are counted in two places, one for line feeds between tokens and one for those
inside strings, and nowhere else.
-/

/-- What a reader finds in a piece that starts on some line. -/
def Piece.finding (line : Nat) (piece : Piece) : Finding :=
  match piece.role, piece.text with
  | .token kind, _ => .token kind
  | .openString, text => .problem (.unterminatedString (line + lineFeeds text))
  | .stray, first :: _ => .problem (.unexpectedCharacter line first)
  | _, _ => .nothing

/-- The piece that a cut takes off, its first character included. -/
def Cut.piece (first : Char) (cut : Cut) : Piece := ⟨cut.role, first :: cut.more⟩

/-- What a cut becomes when it is read behind a text, from a given line on. -/
def Cut.reading (before : List Char) (line : Nat) (first : Char) (cut : Cut) : Reading where
  finding := (cut.piece first).finding line
  cursor := .standing before (first :: cut.more) cut.rest (line + lineFeeds (first :: cut.more))

/-- No line feed is in a run of characters to which line feeds do not belong. -/
theorem lineFeeds_of_isRun {kind : Char → Bool} {run rest : List Char}
    (divided : IsRun kind run rest) (other : kind '\n' = false) : lineFeeds run = 0 :=
  List.count_eq_zero.mpr (divided.not_mem other)

theorem lineFeeds_cons_of_ne {first : Char} (other : first ≠ '\n') (rest : List Char) :
    lineFeeds (first :: rest) = lineFeeds rest :=
  List.count_cons_of_ne other

section

variable (before : List Char) {following : List Char} (line : Nat)

theorem eatWhile_isRun {kind : Char → Bool} {lexeme run rest : List Char}
    (divided : IsRun kind run rest) :
    (Cursor.standing before lexeme (run ++ rest) line).eatWhile kind =
      .standing before (lexeme ++ run) rest line := by
  rw [Cursor.eatWhile_standing, divided.takeWhile_eq, divided.dropWhile_eq]

theorem readMark_standing {first : Char} (alone extended : Token.Punctuator)
    (other : first ≠ '\n') (following : List Char) :
    readMark alone extended (.standing before [first] following line) =
      (cutMark alone extended following).reading before line first := by
  rcases head_shapes '=' following with ⟨rest, rfl⟩ | notEqual
  · have unchanged : lineFeeds [first, '='] = 0 := lineFeeds_cons_of_ne other ['=']
    simp [readMark, cutMark, Cut.reading, Cut.piece, Piece.finding, unchanged]
  · have unchanged : lineFeeds [first] = 0 := lineFeeds_cons_of_ne other []
    rw [cutMark_of_ne alone extended notEqual, readMark,
      Cursor.matchChar_standing_of_ne _ _ _ _ notEqual]
    simp [Cut.reading, Cut.piece, Piece.finding, unchanged]

theorem readSlash_standing (following : List Char) :
    readSlash (.standing before ['/'] following line) =
      (cutSlash following).reading before line '/' := by
  rcases head_shapes '/' following with ⟨behind, rfl⟩ | slash
  · rcases IsRun.exists_eq_append (· != '\n') behind with ⟨body, rest, rfl, comment⟩
    have unchanged : lineFeeds ('/' :: '/' :: body) = 0 := by
      rw [lineFeeds_cons_of_ne (by decide), lineFeeds_cons_of_ne (by decide),
        lineFeeds_of_isRun comment (by decide)]
    rw [cutSlash_comment comment, readSlash, Cursor.matchChar_standing_self]
    simp [eatWhile_isRun before line comment, Cut.reading, Cut.piece, Piece.finding, unchanged]
  · rw [cutSlash_of_ne slash, readSlash, Cursor.matchChar_standing_of_ne _ _ _ _ slash]
    rfl

/-- A closed string is read up to its quote. -/
theorem readString_standing_closed {body : List Char} (inside : '"' ∉ body) (rest : List Char) :
    readString (.standing before ['"'] (body ++ '"' :: rest) line) =
      (cutString (body ++ '"' :: rest)).reading before line '"' := by
  have run : IsRun (· != '"') body ('"' :: rest) := IsRun.ne_of_not_mem inside (by simp)
  have inner := Cursor.inner?_standing before rest (line + body.count '\n') body
  rw [cutString_closed inside]
  simp only [readString, Cursor.eatToQuote_standing, run.takeWhile_eq, run.dropWhile_eq,
    Cursor.peek?_standing, List.head?_cons, Cursor.skip_standing_cons]
  simp only [List.cons_append, List.nil_append] at inner ⊢
  simp [innerOf, inner, Cut.reading, Cut.piece, Piece.finding, lineFeeds]

/-- An open string is read up to the end, and reported on the line reached there. -/
theorem readString_standing_open {body : List Char} (never : '"' ∉ body) :
    readString (.standing before ['"'] body line) =
      (cutString body).reading before line '"' := by
  have run : IsRun (· != '"') body [] := IsRun.ne_of_not_mem never (by simp)
  have taken := run.takeWhile_eq
  have dropped := run.dropWhile_eq
  rw [List.append_nil] at taken dropped
  rw [cutString_open never]
  simp only [readString, Cursor.eatToQuote_standing, taken, dropped]
  simp [Cut.reading, Cut.piece, Piece.finding, lineFeeds]

theorem readString_standing (following : List Char) :
    readString (.standing before ['"'] following line) =
      (cutString following).reading before line '"' := by
  rcases string_shapes following with ⟨body, rest, rfl, inside⟩ | never
  · exact readString_standing_closed before line inside rest
  · exact readString_standing_open before line never

/-- The places of a number are read when its fraction comes next. -/
theorem eatPlaces_standing_fraction {lexeme places rest : List Char} (some : places ≠ [])
    (fraction : IsRun Char.isDigit places rest) :
    eatPlaces (.standing before lexeme ('.' :: (places ++ rest)) line) =
      .standing before (lexeme ++ '.' :: places) rest line := by
  have starts : StartsFraction ('.' :: (places ++ rest)) := by
    cases places with
    | nil => exact absurd rfl some
    | cons place more => exact ⟨place, more ++ rest, rfl, fraction.all place List.mem_cons_self⟩
  rw [startsFraction_iff] at starts
  simp only [eatPlaces, Cursor.peek?_standing, Cursor.peekNext?_standing, if_pos starts,
    Cursor.skip_standing_cons]
  rw [eatWhile_isRun before line fraction, List.append_assoc, List.singleton_append]

theorem eatPlaces_standing_of_not {lexeme rest : List Char} (noFraction : ¬ StartsFraction rest) :
    eatPlaces (.standing before lexeme rest line) = .standing before lexeme rest line := by
  rw [startsFraction_iff] at noFraction
  simp only [eatPlaces, Cursor.peek?_standing, Cursor.peekNext?_standing]
  exact if_neg noFraction

/-- A number has no line feeds: neither its digits are, nor its point. -/
theorem lineFeeds_numeral {digits places : List Char}
    (whole : ∀ digit ∈ digits, digit.isDigit = true)
    (fraction : ∀ digit ∈ places, digit.isDigit = true) :
    lineFeeds (digits ++ '.' :: places) = 0 := by
  have noFeed : ∀ run : List Char, (∀ digit ∈ run, digit.isDigit = true) → lineFeeds run = 0 :=
    fun run all => lineFeeds_of_isRun (IsRun.mk all (by simp : ∀ char ∈ [].head?, _)) (by decide)
  rw [lineFeeds_append, lineFeeds_cons_of_ne (by decide), noFeed digits whole,
    noFeed places fraction]

theorem readNumber_standing {first : Char} (digit : first.isDigit = true)
    (following : List Char) :
    readNumber (.standing before [first] following line) =
      (cutNumber first following).reading before line first := by
  have other : first ≠ '\n' := by
    rintro rfl
    cases digit
  rcases number_shapes following with
    ⟨digits, rest, rfl, whole, noFraction⟩ | ⟨digits, places, rest, rfl, whole, some, fraction⟩
  · have unchanged : lineFeeds (first :: digits) = 0 := by
      rw [lineFeeds_cons_of_ne other, lineFeeds_of_isRun whole (by decide)]
    rw [cutNumber_whole first whole noFraction, readNumber, eatWhile_isRun before line whole,
      eatPlaces_standing_of_not before line noFraction]
    simp [lexemeOf, Cursor.lexeme?_standing, Cut.reading, Cut.piece, Piece.finding, unchanged]
  · have unchanged : lineFeeds (first :: (digits ++ '.' :: places)) = 0 := by
      rw [lineFeeds_cons_of_ne other, lineFeeds_numeral whole fraction.all]
    have run : IsRun Char.isDigit digits ('.' :: (places ++ rest)) := ⟨whole, by simp⟩
    rw [cutNumber_fraction first whole some fraction, readNumber, eatWhile_isRun before line run,
      eatPlaces_standing_fraction before line some fraction]
    simp [lexemeOf, Cursor.lexeme?_standing, Cut.reading, Cut.piece, Piece.finding, unchanged]

theorem readName_standing {first : Char} (starts : isNameStart first = true)
    (following : List Char) :
    readName (.standing before [first] following line) =
      (cutName first following).reading before line first := by
  rcases IsRun.exists_eq_append isNamePart following with ⟨more, rest, rfl, run⟩
  have unchanged : lineFeeds (first :: more) = 0 := by
    rw [lineFeeds_cons_of_ne, lineFeeds_of_isRun run (by decide)]
    rintro rfl
    cases starts
  rw [cutName_run first run, readName, eatWhile_isRun before line run]
  simp [lexemeOf, Cursor.lexeme?_standing, Cut.reading, Cut.piece, Piece.finding, unchanged]

/-- A single character that is no line feed leaves the line as it is. -/
theorem reading_of_single {first : Char} (other : first ≠ '\n') (role : Role)
    (following : List Char) :
    Cut.reading before line first ⟨role, [], following⟩ =
      ⟨(Piece.mk role [first]).finding line, .standing before [first] following line⟩ := by
  have unchanged : lineFeeds [first] = 0 := lineFeeds_cons_of_ne other []
  simp [Cut.reading, Cut.piece, unchanged]

/-- A line feed between tokens is counted when it is met. -/
theorem read_standing_of_isBlank {first : Char} (blank : isBlank first = true)
    (following : List Char) :
    read first (.standing before [first] following line) =
      (cutAt first following).reading before line first := by
  rw [cutAt_of_isBlank following blank]
  simp only [isBlank, Bool.or_eq_true, beq_iff_eq] at blank
  rcases blank with ((rfl | rfl) | rfl) | rfl
  · rw [reading_of_single before line (by decide)]
    rfl
  · rw [reading_of_single before line (by decide)]
    rfl
  · rw [reading_of_single before line (by decide)]
    rfl
  · rfl

/-- Reading a piece from its first character on does what cutting it off does. -/
theorem read_standing (first : Char) (following : List Char) :
    read first (.standing before [first] following line) =
      (cutAt first following).reading before line first := by
  have notFeed : isBlank first = false → first ≠ '\n' := by
    rintro noBlank rfl
    cases noBlank
  rcases first_shapes first with
    ⟨mark, sole⟩ | ⟨alone, extended, extensible⟩ | rfl | rfl | blank | digit | starts | stray
  · have other : first ≠ '\n' := by
      rintro rfl
      cases sole
    rw [cutAt_of_soleMark following sole, reading_of_single before line other]
    simp only [read, sole]
    rfl
  · have other : first ≠ '\n' := by
      rintro rfl
      cases extensible
    rw [cutAt_of_equalMarks following extensible, ← readMark_standing before line _ _ other]
    simp only [read, soleMark?_of_equalMarks extensible, extensible]
  · exact readSlash_standing before line following
  · exact readString_standing before line following
  · exact read_standing_of_isBlank before line blank following
  · rcases plain_of_isNamePart (isNamePart_of_isDigit digit) with
      ⟨noSole, noEqual, noSlash, noQuote, noBlank⟩
    rw [cutAt_of_isDigit following digit, ← readNumber_standing before line digit]
    simp only [read, noSole, noEqual, if_neg noSlash, if_neg noQuote, if_neg (notFeed noBlank),
      noBlank, digit, Bool.false_eq_true, if_true, if_false]
  · rcases plain_of_isNamePart (isNamePart_of_isNameStart starts) with
      ⟨noSole, noEqual, noSlash, noQuote, noBlank⟩
    rw [cutAt_of_isNameStart following starts, ← readName_standing before line starts]
    simp only [read, noSole, noEqual, if_neg noSlash, if_neg noQuote, if_neg (notFeed noBlank),
      noBlank, isDigit_of_isNameStart starts, starts, Bool.false_eq_true, if_true, if_false]
  · rw [cutAt_of_isStray following stray, reading_of_single before line (notFeed stray.noBlank)]
    simp only [read, stray.noSole, stray.noEqual, if_neg stray.noSlash, if_neg stray.noQuote,
      if_neg (notFeed stray.noBlank), stray.noBlank, stray.noDigit, stray.noName,
      Bool.false_eq_true, if_false]
    rfl

end

end Scan
end LoxTokenizer

import LoxTokenizer.Number.Numeral
import LoxTokenizer.Scan.Character
import LoxTokenizer.Token.Keyword

namespace LoxTokenizer
namespace Scan

/-!
# Pieces of a text

Every character of a source belongs to exactly one piece: a token, a blank, a comment, an open string
that runs to the end, or a stray character.  `cutAt` takes off the next piece, always the longest that
starts there; `pieces` repeats it.

Nothing here knows of positions or of reporting.  A scan finds the same pieces with its cursor, and
what is said of a scan is said of them.  The facts to rely on are that a cut divides the text
(`cutAt_append`) and that the pieces, put together again, are the text (`flatten_pieces`).
-/

inductive Role where
  | token (kind : Token.Kind)
  | blank
  | comment
  | openString
  | stray
  deriving DecidableEq

structure Piece where
  role : Role
  text : List Char
  deriving DecidableEq

/-- The first piece of a text that starts with some character: what it is, the characters that
belong to it behind that first one, and the text that remains. -/
structure Cut where
  role : Role
  more : List Char
  rest : List Char

/-- A mark, and an equals sign with it if one follows. -/
def cutMark (alone extended : Token.Punctuator) : List Char → Cut
  | '=' :: rest => ⟨.token (.punctuator extended), ['='], rest⟩
  | rest => ⟨.token (.punctuator alone), [], rest⟩

/-- A comment up to the end of its line if a second slash follows, else a slash. -/
def cutSlash : List Char → Cut
  | '/' :: rest => ⟨.comment, '/' :: rest.takeWhile (· != '\n'), rest.dropWhile (· != '\n')⟩
  | rest => ⟨.token (.punctuator .slash), [], rest⟩

/-- A string up to its closing quote, or all that remains if there is none. -/
def cutString (following : List Char) : Cut :=
  let body := following.takeWhile (· != '"')
  match following.dropWhile (· != '"') with
  | [] => ⟨.openString, body, []⟩
  | quote :: rest => ⟨.token (.string (String.ofList body)), body ++ [quote], rest⟩

/-- A number: digits, and a point with digits behind it.  A point without a digit behind it does
not belong to the number. -/
def cutNumber (first : Char) (following : List Char) : Cut :=
  let whole := following.takeWhile Char.isDigit
  let rest := following.dropWhile Char.isDigit
  let places := (rest.drop 1).takeWhile Char.isDigit
  let more := if rest.head? = some '.' ∧ places ≠ [] then whole ++ '.' :: places else whole
  ⟨.token (.number (Number.numeralValue (first :: more))), more, following.drop more.length⟩

/-- A name, which may turn out to be a reserved word. -/
def cutName (first : Char) (following : List Char) : Cut :=
  let more := following.takeWhile isNamePart
  ⟨.token (.ofName (String.ofList (first :: more))), more, following.dropWhile isNamePart⟩

/-- Takes the next piece off a text that starts with `first`. -/
def cutAt (first : Char) (following : List Char) : Cut :=
  match soleMark? first with
  | some mark => ⟨.token (.punctuator mark), [], following⟩
  | none =>
      match equalMarks? first with
      | some (alone, extended) => cutMark alone extended following
      | none =>
          if first = '/' then cutSlash following
          else if first = '"' then cutString following
          else if isBlank first then ⟨.blank, [], following⟩
          else if first.isDigit then cutNumber first following
          else if isNameStart first then cutName first following
          else ⟨.stray, [], following⟩

theorem cutMark_append (alone extended : Token.Punctuator) (following : List Char) :
    (cutMark alone extended following).more ++ (cutMark alone extended following).rest =
      following := by
  unfold cutMark
  split <;> rfl

theorem cutSlash_append (following : List Char) :
    (cutSlash following).more ++ (cutSlash following).rest = following := by
  unfold cutSlash
  split
  · simp [List.takeWhile_append_dropWhile]
  · rfl

theorem cutString_append (following : List Char) :
    (cutString following).more ++ (cutString following).rest = following := by
  have whole := List.takeWhile_append_dropWhile (p := (· != '"')) (l := following)
  unfold cutString
  split
  · rename_i closed
    simpa [closed] using whole
  · rename_i quote rest closed
    simpa [closed] using whole

theorem cutNumber_append (first : Char) (following : List Char) :
    (cutNumber first following).more ++ (cutNumber first following).rest = following := by
  have whole := List.takeWhile_append_dropWhile (p := Char.isDigit) (l := following)
  simp only [cutNumber]
  split
  · rename_i pointed
    cases behind : following.dropWhile Char.isDigit with
    | nil => simp [behind] at pointed
    | cons point rest =>
        have isPoint : point = '.' := by simpa [behind] using pointed.1
        have places := List.takeWhile_append_dropWhile (p := Char.isDigit) (l := rest)
        have divided : following =
            (following.takeWhile Char.isDigit ++ '.' :: rest.takeWhile Char.isDigit) ++
              rest.dropWhile Char.isDigit := by
          rw [List.append_assoc, List.cons_append, places, ← isPoint, ← behind, whole]
        have kept := congrArg
          (List.drop (following.takeWhile Char.isDigit ++
            '.' :: rest.takeWhile Char.isDigit).length) divided
        rw [List.drop_left] at kept
        simp only [List.drop_succ_cons, List.drop_zero]
        rw [kept]
        exact divided.symm
  · have kept := congrArg (List.drop (following.takeWhile Char.isDigit).length) whole
    rw [List.drop_left] at kept
    rw [← kept]
    exact whole

theorem cutName_append (first : Char) (following : List Char) :
    (cutName first following).more ++ (cutName first following).rest = following :=
  List.takeWhile_append_dropWhile

/-- A cut divides the text: nothing is lost and nothing is moved. -/
theorem cutAt_append (first : Char) (following : List Char) :
    (cutAt first following).more ++ (cutAt first following).rest = following := by
  unfold cutAt
  split
  · rfl
  · split
    · exact cutMark_append _ _ _
    · split
      · exact cutSlash_append _
      · split
        · exact cutString_append _
        · split
          · rfl
          · split
            · exact cutNumber_append _ _
            · split
              · exact cutName_append _ _
              · rfl

/-- What remains after a cut is no longer than what followed the first character. -/
theorem length_rest_cutAt_le (first : Char) (following : List Char) :
    (cutAt first following).rest.length ≤ following.length := by
  have divided := congrArg List.length (cutAt_append first following)
  rw [List.length_append] at divided
  omega

/-- The pieces of a text, from left to right. -/
def pieces : List Char → List Piece
  | [] => []
  | first :: following =>
      ⟨(cutAt first following).role, first :: (cutAt first following).more⟩ ::
        pieces (cutAt first following).rest
termination_by text => text.length
decreasing_by exact Nat.lt_succ_of_le (length_rest_cutAt_le first following)

@[simp] theorem pieces_nil : pieces [] = [] := by
  rw [pieces]

theorem pieces_cons (first : Char) (following : List Char) :
    pieces (first :: following) =
      ⟨(cutAt first following).role, first :: (cutAt first following).more⟩ ::
        pieces (cutAt first following).rest := by
  rw [pieces]

/-- The pieces, put together again, are the text. -/
theorem flatten_pieces (text : List Char) : ((pieces text).map Piece.text).flatten = text := by
  induction text using pieces.induct with
  | case1 => simp
  | case2 first following ih =>
      rw [pieces_cons, List.map_cons, List.flatten_cons, ih, List.cons_append, cutAt_append]

end Scan
end LoxTokenizer

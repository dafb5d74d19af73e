import LoxTokenizer.Proofs.Scan.Lookahead

namespace LoxTokenizer

open Scan

/-!
# Lexemes printed with blanks between them

The lexemes of a scan can be written one after another with any blanks between them, and they are
scanned to the same tokens again.  Comments and rejected characters are not needed for that, and
neither are the blanks that stood in the source: some blank behind each lexeme is enough, since it
stops whatever the lexeme might otherwise go on with.  Line feeds and slashes inside a string belong
to its lexeme, and the blanks around it do not touch them.
-/

/-- What a token says, wherever it stands. -/
def Token.content (token : Token) : Token.Kind × String := (token.kind, token.lexeme)

/-- What all tokens say but the one that ends the list. -/
def contents (tokens : List Token) : List (Token.Kind × String) :=
  (tokens.filter fun token => !token.isEndOfInput).map Token.content

namespace Scan

/-- `Spaced lexemes text`: the text is those lexemes in their order, with blanks behind each of them.
Only behind the last one there may be none. -/
inductive Spaced : List String → List Char → Prop where
  | nil : Spaced [] []
  | cons {lexeme : String} {later : List String} {gap text : List Char} (blank : AllBlank gap)
      (apart : later ≠ [] → gap ≠ []) (rest : Spaced later text) :
      Spaced (lexeme :: later) (lexeme.toList ++ (gap ++ text))

/-! ## What pieces say -/

/-- What the token says that a piece is. -/
def Piece.content? (piece : Piece) : Option (Token.Kind × String) :=
  match piece.role with
  | .token kind => some (kind, String.ofList piece.text)
  | _ => none

/-- Neither rejected nor left open. -/
def Piece.IsSound (piece : Piece) : Prop := piece.role ≠ .stray ∧ piece.role ≠ .openString

theorem Piece.content?_eq_some {piece : Piece} {content : Token.Kind × String}
    (carried : piece.content? = some content) :
    piece.role = .token content.1 ∧ String.ofList piece.text = content.2 := by
  rcases piece with ⟨role, text⟩
  cases role with
  | token kind =>
      cases carried
      exact ⟨rfl, rfl⟩
  | blank => cases carried
  | comment => cases carried
  | openString => cases carried
  | stray => cases carried

theorem content?_blankPieces (gap : List Char) :
    (blankPieces gap).filterMap Piece.content? = [] := by
  rw [List.filterMap_eq_nil_iff]
  intro piece member
  rcases List.mem_map.mp member with ⟨char, _, rfl⟩
  rfl

theorem isSound_blankPieces {gap : List Char} : ∀ piece ∈ blankPieces gap, piece.IsSound := by
  intro piece member
  rcases List.mem_map.mp member with ⟨char, _, rfl⟩
  constructor <;> exact fun impossible => by cases impossible

theorem map_content_tokensOf (before : List Char) (parts : List Piece) :
    (tokensOf (layOut before parts)).map Token.content = parts.filterMap Piece.content? := by
  induction parts generalizing before with
  | nil => rfl
  | cons piece rest ih =>
      rcases piece with ⟨role, text⟩
      rw [layOut_cons, tokensOf_append, List.map_append, ih, List.filterMap_cons]
      cases role <;> rfl

theorem errorsOf_of_isSound {parts : List Piece} (sound : ∀ piece ∈ parts, piece.IsSound)
    (before : List Char) : errorsOf (layOut before parts) = [] := by
  induction parts generalizing before with
  | nil => rfl
  | cons piece rest ih =>
      rcases List.forall_mem_cons.mp sound with ⟨soundHere, soundLater⟩
      rw [layOut_cons, errorsOf_append, ih soundLater, List.append_nil]
      rcases piece with ⟨role, text⟩
      cases role with
      | stray => exact absurd rfl soundHere.1
      | openString => exact absurd rfl soundHere.2
      | token kind => rfl
      | blank => rfl
      | comment => rfl

/-- What a scan says is what its pieces say, and behind that the end of input. -/
theorem map_content_scanText (text : List Char) :
    (scanText text).tokens.map Token.content =
      (pieces text).filterMap Piece.content? ++ [(.endOfInput, "")] := by
  rw [scanText_eq, List.map_append, placedPieces, map_content_tokensOf]
  rfl

theorem contents_scanText (text : List Char) :
    contents (scanText text).tokens = (pieces text).filterMap Piece.content? := by
  have notLast : (tokensOf (placedPieces text)).filter (fun token => !token.isEndOfInput) =
      tokensOf (placedPieces text) := by
    rw [List.filter_eq_self]
    intro token member
    rw [isEndOfInput_of_mem_tokensOf member]
    rfl
  rw [contents, scanText_eq, List.filter_append, notLast, ← map_content_tokensOf []]
  exact congrArg (List.map Token.content) (List.append_nil _)

/-! ## Lexemes in front of blanks -/

/-- A lexeme in front of blanks is cut off again, in the same role. -/
theorem pieces_lexeme_append {source text : List Char} {piece : Piece} {kind : Token.Kind}
    (member : piece ∈ pieces source) (isToken : piece.role = .token kind)
    (blank : ∀ char ∈ text.head?, isBlank char = true) :
    pieces (piece.text ++ text) = piece :: pieces text := by
  rcases exists_cutAt_of_mem_pieces member with ⟨first, following, rfl⟩
  have role : (cutAt first following).role = .token kind := isToken
  have cut : cutAt first ((cutAt first following).more ++ text) =
      { cutAt first following with rest := text } := by
    apply cutAt_more_append
    · rw [role]
      exact fun impossible => by cases impossible
    · rw [role]
      exact fun impossible => by cases impossible
    · exact stopsLike_of_isBlank _ blank
  rw [Cut.piece, List.cons_append, pieces_cons, cut]

/-- Behind a lexeme there is a blank or nothing. -/
theorem Spaced.head?_gap_append {later : List String} {gap text : List Char}
    (rest : Spaced later text) (blank : AllBlank gap) (apart : later ≠ [] → gap ≠ []) :
    ∀ char ∈ (gap ++ text).head?, isBlank char = true := by
  cases gap with
  | cons first more => exact blank.head?
  | nil =>
      cases rest with
      | nil =>
          intro char starts
          cases starts
      | cons => exact absurd rfl (apart (List.cons_ne_nil _ _))

/-- Lexemes with blanks between them are cut into those lexemes and those blanks. -/
theorem pieces_spaced {source text : List Char} {parts : List Piece}
    (lexical : ∀ piece ∈ parts, piece ∈ pieces source ∧ ∃ kind, piece.role = .token kind)
    (spaced : Spaced (parts.map fun piece => String.ofList piece.text) text) :
    (pieces text).filterMap Piece.content? = parts.filterMap Piece.content? ∧
      ∀ piece ∈ pieces text, piece.IsSound := by
  induction parts generalizing text with
  | nil =>
      cases spaced
      simp
  | cons piece rest ih =>
      rcases List.forall_mem_cons.mp lexical with ⟨⟨member, kind, isToken⟩, lexicalLater⟩
      rw [List.map_cons] at spaced
      cases spaced with
      | @cons _ _ gap text blank apart later =>
          rcases ih lexicalLater later with ⟨sameContents, sound⟩
          rw [String.toList_ofList,
            pieces_lexeme_append member isToken (later.head?_gap_append blank apart),
            pieces_blank_append blank]
          constructor
          · rw [List.filterMap_cons, List.filterMap_append, content?_blankPieces,
              List.nil_append, sameContents, List.filterMap_cons]
          · have soundHere : piece.IsSound := by
              rw [Piece.IsSound, isToken]
              constructor <;> exact fun impossible => by cases impossible
            have soundBehind : ∀ other ∈ blankPieces gap ++ pieces text, other.IsSound :=
              List.forall_mem_append.mpr ⟨isSound_blankPieces, sound⟩
            exact List.forall_mem_cons.mpr ⟨soundHere, soundBehind⟩

/-- What some pieces say, and the pieces of them that say it. -/
theorem exists_tokenPieces (parts : List Piece) :
    ∃ tokens : List Piece,
      (∀ piece ∈ tokens, piece ∈ parts ∧ ∃ kind, piece.role = .token kind) ∧
      tokens.filterMap Piece.content? = parts.filterMap Piece.content? ∧
      tokens.map (fun piece => String.ofList piece.text) =
        (parts.filterMap Piece.content?).map Prod.snd := by
  induction parts with
  | nil => exact ⟨[], by simp⟩
  | cons piece rest ih =>
      rcases ih with ⟨tokens, lexical, sameContents, lexemes⟩
      have among : ∀ other ∈ tokens, other ∈ piece :: rest ∧ ∃ kind, other.role = .token kind := by
        intro other member
        exact ⟨List.mem_cons_of_mem _ (lexical other member).1, (lexical other member).2⟩
      cases carried : piece.content? with
      | none =>
          refine ⟨tokens, among, ?_, ?_⟩
          · rw [List.filterMap_cons_none carried, sameContents]
          · rw [List.filterMap_cons_none carried, lexemes]
      | some content =>
          rcases Piece.content?_eq_some carried with ⟨isToken, lexeme⟩
          refine ⟨piece :: tokens, ?_, ?_, ?_⟩
          · exact List.forall_mem_cons.mpr ⟨⟨List.mem_cons_self, content.1, isToken⟩, among⟩
          · rw [List.filterMap_cons_some carried, List.filterMap_cons_some carried, sameContents]
          · rw [List.filterMap_cons_some carried, List.map_cons, List.map_cons, lexeme, lexemes]

end Scan

/-- Printing the lexemes of a source and scanning them again gives the same tokens, up to their
places.  Whatever blanks are put between the lexemes, and perhaps in front of them and behind them,
nothing is rejected, and the kinds with their values and the lexemes are the same, with the end of
input behind them.  The source itself may have had errors. -/
theorem scan_spaced (source : String) {gap text : List Char} (blank : AllBlank gap)
    (spaced : Spaced ((contents (scan source).tokens).map Prod.snd) text) :
    (scan (String.ofList (gap ++ text))).errors = [] ∧
    (scan (String.ofList (gap ++ text))).tokens.map Token.content =
      contents (scan source).tokens ++ [(.endOfInput, "")] := by
  have said : contents (scan source).tokens = (pieces source.toList).filterMap Piece.content? :=
    contents_scanText source.toList
  rw [said] at spaced ⊢
  rcases exists_tokenPieces (pieces source.toList) with ⟨tokens, lexical, sameContents, lexemes⟩
  rw [← lexemes] at spaced
  rcases pieces_spaced lexical spaced with ⟨printed, sound⟩
  rw [scan, String.toList_ofList]
  constructor
  · rw [scanText_eq, placedPieces, pieces_blank_append blank]
    exact errorsOf_of_isSound (List.forall_mem_append.mpr ⟨isSound_blankPieces, sound⟩) []
  · rw [map_content_scanText, pieces_blank_append blank, List.filterMap_append,
      content?_blankPieces, List.nil_append, printed, sameContents]

/-- Two slashes that a rejected character held apart, and a string with a line feed. -/
theorem scan_spaced_slashes :
    AllBlank ['\t'] ∧
    Spaced ["/", "/", "\"/\n\""] ("/ /\r\n\"/\n\"".toList) ∧
    (contents (scan "/@/\"/\n\"//").tokens).map Prod.snd = ["/", "/", "\"/\n\""] ∧
    (scan "\t/ /\r\n\"/\n\"").errors = [] ∧
    (scan "\t/ /\r\n\"/\n\"").tokens.map Token.content =
      [(.punctuator .slash, "/"), (.punctuator .slash, "/"), (.string "/\n", "\"/\n\""),
        (.endOfInput, "")] := by
  have blank : AllBlank ['\t'] := by decide
  have spaced : Spaced ["/", "/", "\"/\n\""] ("/ /\r\n\"/\n\"".toList) :=
    @Spaced.cons _ _ [' '] _ (by decide) (by simp)
      (@Spaced.cons _ _ ['\r', '\n'] _ (by decide) (by simp)
        (@Spaced.cons _ _ [] _ (by decide) (by simp) .nil))
  have lexemes : (contents (scan "/@/\"/\n\"//").tokens).map Prod.snd =
      ["/", "/", "\"/\n\""] := by decide +kernel
  have said : contents (scan "/@/\"/\n\"//").tokens =
      [(.punctuator .slash, "/"), (.punctuator .slash, "/"), (.string "/\n", "\"/\n\"")] := by
    decide +kernel
  rcases scan_spaced "/@/\"/\n\"//" blank (lexemes ▸ spaced) with ⟨errors, tokens⟩
  rw [said] at tokens
  exact ⟨blank, spaced, lexemes, errors, tokens⟩

end LoxTokenizer

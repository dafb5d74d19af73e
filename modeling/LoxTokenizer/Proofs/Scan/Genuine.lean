import LoxTokenizer.Proofs.Number.Text
import LoxTokenizer.Proofs.Scan.Grammar
import LoxTokenizer.Proofs.Scan.Lookahead

namespace LoxTokenizer

open Scan

/-!
# What the tokens of a scan are

A token that a scan hands out is the end of input or a piece that is spelled like its kind says.  So
its lexeme tells its literal, and tells where it ends: a string at its second quote, any other lexeme
at the first blank.
-/

/-! ## Lexemes without blanks -/

section

variable {char : Char} (blank : isBlank char = true)
include blank

theorem blank_not_mem_spelling (mark : Token.Punctuator) : char ∉ mark.spelling.toList := by
  have none : ∀ mark ∈ Token.Punctuator.all, mark.spelling.toList.any isBlank = false := by
    decide
  intro member
  have some := List.any_eq_true.mpr ⟨char, member, blank⟩
  rw [none mark mark.mem_all] at some
  cases some

theorem blank_not_mem_number {text : List Char} (numeral : NumberText text) : char ∉ text := by
  have noDigit : char.isDigit ≠ true := by
    rw [isDigit_of_isBlank blank]
    decide
  intro member
  cases numeral with
  | whole some all => exact noDigit (all _ member)
  | fraction some all somePlaces allPlaces =>
      rcases List.mem_append.mp member with whole | behind
      · exact noDigit (all _ whole)
      · rcases List.mem_cons.mp behind with rfl | place
        · exact absurd blank (by decide)
        · exact noDigit (allPlaces _ place)

theorem blank_not_mem_name {text : List Char} (name : NameText text) : char ∉ text := by
  have noPart : isNamePart char ≠ true := by
    rw [isNamePart_of_isBlank blank]
    decide
  cases name with
  | intro starts goesOn =>
      intro member
      rcases List.mem_cons.mp member with rfl | later
      · exact noPart (isNamePart_of_isNameStart ((isNameStart_iff _).mpr starts))
      · exact noPart ((isNamePart_iff char).mpr (goesOn _ later))

end

/-! ## Displayed numbers -/

/-- What a number is displayed with are parts of numerals, and the letters of the words that stand for
what has no numeral. -/
theorem Literal.not_mem_display_number {char : Char} (noPart : Number.isNumeralPart char = false)
    (noLetter : char.isAlpha = false) (value : Number.Double) :
    char ∉ (Literal.number value).display.toList := by
  have minus : char ≠ '-' := by
    rintro rfl
    cases noPart
  have word : ∀ {text : List Char}, text.all Char.isAlpha = true → char ∉ text := by
    intro text letters member
    rw [List.all_eq_true.mp letters char member] at noLetter
    cases noLetter
  rw [display]
  split
  · exact word (by decide)
  · split
    · rename_i finite
      rcases layout.denotes_magnitudeText (of_decide_eq_true finite) with ⟨decimal, numeral, _⟩
      rw [Number.Layout.finiteText, String.toList_ofList, List.mem_append, not_or]
      constructor
      · split
        · exact List.not_mem_cons_of_ne_of_not_mem minus List.not_mem_nil
        · exact List.not_mem_nil
      · intro member
        rw [numeral.numeralParts char member] at noPart
        cases noPart
    · split
      · exact List.not_mem_cons_of_ne_of_not_mem minus (word (by decide))
      · exact word (by decide)

/-! ## Kinds and lexemes -/

namespace Token

/-- A kind and a lexeme that a token of a scan can have together. -/
inductive Matches : Kind → List Char → Prop where
  | spelled {kind : Kind} {text rest : List Char} (spells : Spells (.token kind) text rest) :
      Matches kind text
  | ending : Matches .endOfInput []

/-- The literal that a lexeme stands for. -/
def literalOf (tag : Tag) (lexeme : List Char) : Option Literal :=
  match tag with
  | .string => some (.string (String.ofList (lexeme.drop 1).dropLast))
  | .number => some (.number (Number.numeralValue lexeme))
  | _ => none

namespace Matches

variable {kind : Kind} {text : List Char}

/-- A string has exactly two quotes. -/
theorem string_lexeme (matching : Matches kind text) (isString : kind.tag = .string) :
    ∃ body, '"' ∉ body ∧ text = '"' :: (body ++ ['"']) := by
  cases matching with
  | ending => cases isString
  | spelled spells =>
      cases spells with
      | string inside rest => exact ⟨_, inside, rfl⟩
      | _ => cases isString

theorem mark_lexeme {mark : Punctuator} (matching : Matches (.punctuator mark) text) :
    text = mark.spelling.toList := by
  cases matching with
  | spelled spells =>
      cases spells
      rfl

/-- No blank is inside any other lexeme. -/
theorem blank_not_mem_lexeme (matching : Matches kind text) (noString : kind.tag ≠ .string)
    {char : Char} (blank : isBlank char = true) : char ∉ text := by
  cases matching with
  | ending => exact List.not_mem_nil
  | spelled spells =>
      cases spells with
      | mark mark => exact blank_not_mem_spelling blank mark
      | string inside rest => exact absurd rfl noString
      | number numeral => exact blank_not_mem_number blank numeral
      | keyword name => exact blank_not_mem_name blank name
      | identifier name => exact blank_not_mem_name blank name

theorem literal?_eq (matching : Matches kind text) (lexeme : String) (line : Nat) (span : Span) :
    (Token.mk kind lexeme line span).literal? = literalOf kind.tag text := by
  cases matching with
  | ending => rfl
  | spelled spells =>
      cases spells with
      | string inside rest => simp [literalOf, literal?, Kind.tag]
      | _ => rfl

end Matches

/-! ## Tokens of a scan -/

/-- A token as scans hand them out. -/
def Genuine (token : Token) : Prop := Matches token.kind token.lexeme.toList

/-- The lexeme of a token tells its literal. -/
theorem Genuine.literal?_eq {token : Token} (genuine : token.Genuine) :
    token.literal? = literalOf token.kind.tag token.lexeme.toList :=
  Matches.literal?_eq genuine token.lexeme token.line token.span

/-- Whatever a literal is displayed with stands in the lexeme, or in displayed numbers. -/
theorem Genuine.not_mem_literal {token : Token} (genuine : token.Genuine) {char : Char}
    (noPart : Number.isNumeralPart char = false) (noLetter : char.isAlpha = false)
    (outside : char ∉ token.lexeme.toList) :
    ∀ literal ∈ token.literal?, char ∉ literal.display.toList := by
  rw [genuine.literal?_eq]
  intro literal carried
  cases isTag : token.kind.tag with
  | string =>
      rw [isTag] at carried
      cases carried
      intro member
      rw [Literal.display, String.toList_ofList] at member
      exact outside (List.mem_of_mem_drop ((List.dropLast_sublist _).mem member))
  | number =>
      rw [isTag] at carried
      cases carried
      exact Literal.not_mem_display_number noPart noLetter _
  | _ =>
      rw [isTag] at carried
      cases carried

/-- No token of a scan carries a negative number or none at all. -/
theorem Genuine.number {token : Token} (genuine : token.Genuine) {value : Number.Double}
    (isNumber : token.kind = .number value) : value.isNaN = false ∧ value.negative = false := by
  have literal := genuine.literal?_eq
  rw [literal?, isNumber] at literal
  cases literal
  exact ⟨Number.isNaN_numeralValue _, Number.negative_numeralValue _⟩

/-- Where the tokens of a scan come from: all but the last are pieces of the source. -/
theorem mem_scan_cases {source : String} {token : Token} (member : token ∈ (scan source).tokens) :
    (∃ piece ∈ pieces source.toList, token.lexeme.toList = piece.text ∧
      piece.role = .token token.kind) ∨
    (token.kind = .endOfInput ∧ token.lexeme = "") := by
  rw [scan, scanText_eq] at member
  rcases List.mem_append.mp member with cut | isLast
  · rcases List.mem_filterMap.mp cut with ⟨placed, memberPlaced, found⟩
    rcases Placed.token?_eq_some found with ⟨same, role⟩
    refine Or.inl ⟨placed.piece, ?_, ?_, role⟩
    · rw [← map_piece_layOut [] (pieces source.toList)]
      exact List.mem_map_of_mem memberPlaced
    · rw [same]
      exact String.toList_ofList
  · rw [List.mem_singleton.mp isLast]
    exact Or.inr ⟨rfl, rfl⟩

/-- Every token of a scan is genuine. -/
theorem genuine_of_mem_scan {source : String} {token : Token}
    (member : token ∈ (scan source).tokens) : token.Genuine := by
  rcases mem_scan_cases member with ⟨piece, memberPieces, lexeme, role⟩ | ⟨isEnd, empty⟩
  · rcases exists_cutAt_of_mem_pieces memberPieces with ⟨first, following, rfl⟩
    have isToken : (cutAt first following).role = .token token.kind := role
    have isLexeme : token.lexeme.toList = first :: (cutAt first following).more := lexeme
    rcases spells_cutAt first following with isStray | spells
    · rw [isStray] at isToken
      cases isToken
    · rw [isToken, ← isLexeme] at spells
      exact .spelled spells
  · rw [Genuine, isEnd, empty]
    exact .ending

/-- The characters of a lexeme are characters of the source. -/
theorem mem_source_of_mem_lexeme {source : String} {token : Token} {char : Char}
    (member : token ∈ (scan source).tokens) (inside : char ∈ token.lexeme.toList) :
    char ∈ source.toList := by
  rcases mem_scan_cases member with ⟨piece, memberPieces, lexeme, role⟩ | ⟨isEnd, empty⟩
  · rw [lexeme] at inside
    rw [← flatten_pieces source.toList]
    exact List.mem_flatten_of_mem (List.mem_map_of_mem memberPieces) inside
  · rw [empty] at inside
    exact absurd inside List.not_mem_nil

end Token
end LoxTokenizer

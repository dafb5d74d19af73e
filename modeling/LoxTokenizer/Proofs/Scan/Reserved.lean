import LoxTokenizer.Proofs.Scan.Genuine

namespace LoxTokenizer
namespace Token

open Scan

/-!
# Reserved words in a scan

The table of reserved words is searched by halving.  The search finds what going through the whole
table finds, and every spelling in the table is a name, so a scan never cuts one off as anything else.
Whether a token is a keyword is therefore a matter of its lexeme alone: the kind of a keyword tells the
lexeme and the lexeme tells the kind, whatever sources the tokens come from.
-/

namespace Keyword

/-- The word found for a spelling by going through the table from its first entry on. -/
def listed? (text : String) : Option Keyword :=
  (table.find? fun entry => entry.1 == text).map Prod.snd

/-- Halving the table finds what going through all of it finds. -/
theorem ofSpelling?_eq_listed? (text : String) : ofSpelling? text = listed? text := by
  cases found : table.find? fun entry => entry.1 == text with
  | none =>
      rw [listed?, found, Option.map_none, Option.eq_none_iff_forall_ne_some]
      intro word spelled
      have entry := (ofSpelling?_eq_some_iff text word).mp spelled
      exact Array.find?_eq_none.mp found _ entry (beq_self_eq_true text)
  | some entry =>
      have entryHere := Array.mem_of_find?_eq_some found
      have sameText : entry.1 = text := by
        simpa using Array.find?_some found
      rw [listed?, found, Option.map_some, ofSpelling?_eq_some_iff, ← sameText]
      exact entryHere

/-- No spelling is listed twice. -/
theorem eq_of_mem_table {text : String} {first second : Keyword} (isFirst : (text, first) ∈ table)
    (isSecond : (text, second) ∈ table) : first = second := by
  rw [← ofSpelling?_eq_some_iff] at isFirst isSecond
  exact Option.some.inj (isFirst.symm.trans isSecond)

/-- Every spelling in the table is a name. -/
theorem nameText_of_mem_table {entry : String × Keyword} (listed : entry ∈ table) :
    NameText entry.1.toList := by
  have letters : ∀ entry ∈ table.toList,
      entry.1.toList ≠ [] ∧ entry.1.toList.all Char.isAlpha = true := by
    decide
  rcases letters entry (Array.mem_toList_iff.mpr listed) with ⟨someText, all⟩
  rw [List.all_eq_true] at all
  cases spelled : entry.1.toList with
  | nil => exact absurd spelled someText
  | cons first more =>
      rw [spelled, List.forall_mem_cons] at all
      refine .intro (Or.inl all.1) fun char member => Or.inl ?_
      rw [Char.isAlphanum, all.2 char member, Bool.true_or]

end Keyword

/-! ## Names are told from all other lexemes -/

theorem isNameStart_of_nameText {first : Char} {more : List Char}
    (name : NameText (first :: more)) : isNameStart first = true := by
  cases name with
  | intro starts goesOn => exact (isNameStart_iff first).mpr starts

theorem not_nameText_spelling (mark : Punctuator) : ¬ NameText mark.spelling.toList := by
  have noLetter : ∀ mark ∈ Punctuator.all, mark.spelling.toList.head?.any isNameStart = false := by
    decide
  have here := noLetter mark mark.mem_all
  intro name
  generalize mark.spelling.toList = text at here name
  cases name with
  | @intro first more starts goesOn =>
      rw [List.head?_cons, Option.any_some, (isNameStart_iff first).mpr starts] at here
      cases here

theorem not_nameText_of_numberText {text : List Char} (number : NumberText text) :
    ¬ NameText text := by
  have startsWithDigit : ∃ first more, text = first :: more ∧ first.isDigit = true := by
    cases number with
    | @whole digits some all =>
        rcases List.exists_cons_of_ne_nil some with ⟨first, more, rfl⟩
        exact ⟨first, more, rfl, all first List.mem_cons_self⟩
    | @fraction digits places some all =>
        rcases List.exists_cons_of_ne_nil some with ⟨first, more, rfl⟩
        exact ⟨first, more ++ '.' :: places, rfl, all first List.mem_cons_self⟩
  rcases startsWithDigit with ⟨first, more, rfl, digit⟩
  intro name
  rw [isDigit_of_isNameStart (isNameStart_of_nameText name)] at digit
  cases digit

/-- A lexeme that is a name leaves its token no choice of kind. -/
theorem Matches.kind_eq_ofName {kind : Kind} {text : List Char} (matching : Matches kind text)
    (name : NameText text) : kind = .ofName (String.ofList text) := by
  cases matching with
  | ending => cases name
  | spelled spells =>
      cases spells with
      | mark mark => exact absurd name (not_nameText_spelling mark)
      | string inside rest => exact absurd (isNameStart_of_nameText name) (by decide)
      | number numeral => exact absurd name (not_nameText_of_numberText numeral)
      | keyword name listed => exact ((Kind.ofName_eq_keyword_iff _ _).mpr listed).symm
      | identifier name unlisted => exact ((Kind.ofName_eq_identifier_iff _).mpr unlisted).symm

section

variable {source : String} {token : Token}

theorem kind_eq_ofName_of_mem_scan (member : token ∈ (scan source).tokens)
    (name : NameText token.lexeme.toList) : token.kind = .ofName token.lexeme := by
  have told := Matches.kind_eq_ofName (genuine_of_mem_scan member) name
  rwa [String.ofList_toList] at told

/-- A token of a scan is a keyword exactly when its lexeme is listed. -/
theorem kind_eq_keyword_iff (member : token ∈ (scan source).tokens) (word : Keyword) :
    token.kind = .keyword word ↔ (token.lexeme, word) ∈ Keyword.table := by
  constructor
  · intro isWord
    have matching : Matches token.kind token.lexeme.toList := genuine_of_mem_scan member
    rw [isWord] at matching
    generalize lexeme : token.lexeme.toList = text at matching
    cases matching with
    | spelled spells =>
        cases spells with
        | keyword name listed =>
            rwa [← lexeme, String.ofList_toList] at listed
  · intro listed
    rw [kind_eq_ofName_of_mem_scan member (Keyword.nameText_of_mem_table listed)]
    exact (Kind.ofName_eq_keyword_iff _ _).mpr listed

theorem kind_eq_identifier_iff (member : token ∈ (scan source).tokens) :
    token.kind = .identifier ↔
      NameText token.lexeme.toList ∧ ∀ word, (token.lexeme, word) ∉ Keyword.table := by
  constructor
  · intro isIdentifier
    have matching : Matches token.kind token.lexeme.toList := genuine_of_mem_scan member
    rw [isIdentifier] at matching
    generalize lexeme : token.lexeme.toList = text at matching
    cases matching with
    | spelled spells =>
        cases spells with
        | identifier name unlisted =>
            rw [← lexeme, String.ofList_toList] at unlisted
            exact ⟨name, unlisted⟩
  · rintro ⟨name, unlisted⟩
    rw [kind_eq_ofName_of_mem_scan member name]
    exact (Kind.ofName_eq_identifier_iff _).mpr unlisted

end

/-- The search by halving finds a word for a text exactly when the table lists it with that spelling,
and then the word that a search through all of the table finds.  So a token of a scan is the keyword
that is listed for its lexeme, and an identifier where the lexeme is a name and nothing is listed; and
two keywords, of any two sources, are of one kind exactly when they have one lexeme. -/
theorem keywords_as_listed :
    (∀ text, Keyword.ofSpelling? text = Keyword.listed? text ∧
      ∀ word, Keyword.ofSpelling? text = some word ↔ (text, word) ∈ Keyword.table) ∧
    (∀ source, ∀ token ∈ (scan source).tokens,
      (∀ word, token.kind = .keyword word ↔ (token.lexeme, word) ∈ Keyword.table) ∧
      (token.kind = .identifier ↔
        NameText token.lexeme.toList ∧ ∀ word, (token.lexeme, word) ∉ Keyword.table)) ∧
    (∀ source other, ∀ first ∈ (scan source).tokens, ∀ second ∈ (scan other).tokens,
      first.kind.isKeyword = true → second.kind.isKeyword = true →
        (first.kind = second.kind ↔ first.lexeme = second.lexeme)) := by
  refine ⟨?_, ?_, ?_⟩
  · intro text
    exact ⟨Keyword.ofSpelling?_eq_listed? text, Keyword.ofSpelling?_eq_some_iff text⟩
  · intro source token member
    exact ⟨kind_eq_keyword_iff member, kind_eq_identifier_iff member⟩
  · intro source other first isFirst second isSecond firstWord secondWord
    have named : ∀ kind : Kind, kind.isKeyword = true → ∃ word, kind = .keyword word := by
      intro kind isWord
      cases kind with
      | keyword word => exact ⟨word, rfl⟩
      | _ => cases isWord
    rcases named first.kind firstWord with ⟨word, isWord⟩
    rcases named second.kind secondWord with ⟨otherWord, isOther⟩
    have listed := (kind_eq_keyword_iff isFirst word).mp isWord
    have otherListed := (kind_eq_keyword_iff isSecond otherWord).mp isOther
    constructor
    · intro sameKind
      rw [isWord, isOther] at sameKind
      cases sameKind
      exact (Keyword.spelling_of_mem_table listed).symm.trans
        (Keyword.spelling_of_mem_table otherListed)
    · intro sameLexeme
      rw [sameLexeme] at listed
      rw [isWord, isOther, Keyword.eq_of_mem_table listed otherListed]

end Token
end LoxTokenizer

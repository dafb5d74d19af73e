import LoxTokenizer.Proofs.Scan.Stream
import LoxTokenizer.Proofs.Token.Keyword

namespace LoxTokenizer
namespace Scan

open Text (IsRun)

/-!
# The grammar of pieces

A source is cut from left to right, and each piece is the longest prefix of the remaining text that is
spelled like one of the classes of pieces; where no prefix is, a single stray character is taken.
The spellings below are stated without the scanner: what a class looks like, and nothing about how it
is found.  In particular a comment and an open string are told by what follows them, and the
reserved words are those of the table, wherever they stand in it.

That a cut takes off the longest spelling rests on one fact, `Spells.takesIn_cutAt`: every spelling
that a text starts with is a prefix of the piece that is cut off.
-/

/-- The texts of numbers. -/
inductive NumberText : List Char → Prop where
  | whole {digits : List Char} (some : digits ≠ [])
      (all : ∀ digit ∈ digits, digit.isDigit = true) : NumberText digits
  | fraction {digits places : List Char} (some : digits ≠ [])
      (all : ∀ digit ∈ digits, digit.isDigit = true) (somePlaces : places ≠ [])
      (allPlaces : ∀ digit ∈ places, digit.isDigit = true) :
      NumberText (digits ++ '.' :: places)

/-- The texts of names, reserved or not. -/
inductive NameText : List Char → Prop where
  | intro {first : Char} {more : List Char} (starts : first.isAlpha = true ∨ first = '_')
      (goesOn : ∀ char ∈ more, char.isAlphanum = true ∨ char = '_') : NameText (first :: more)

/-- `Spells role text rest`: where `rest` follows, `text` is spelled like a piece in that role. -/
inductive Spells : Role → List Char → List Char → Prop where
  | mark (mark : Token.Punctuator) (rest : List Char) :
      Spells (.token (.punctuator mark)) mark.spelling.toList rest
  | string {body : List Char} (inside : '"' ∉ body) (rest : List Char) :
      Spells (.token (.string (String.ofList body))) ('"' :: (body ++ ['"'])) rest
  | number {text : List Char} (numeral : NumberText text) (rest : List Char) :
      Spells (.token (.number (Number.numeralValue text))) text rest
  | keyword {text : List Char} {word : Token.Keyword} (name : NameText text)
      (listed : (String.ofList text, word) ∈ Token.Keyword.table) (rest : List Char) :
      Spells (.token (.keyword word)) text rest
  | identifier {text : List Char} (name : NameText text)
      (unlisted : ∀ word, (String.ofList text, word) ∉ Token.Keyword.table) (rest : List Char) :
      Spells (.token .identifier) text rest
  | blank {char : Char} (member : char ∈ [' ', '\t', '\r', '\n']) (rest : List Char) :
      Spells .blank [char] rest
  | comment {body rest : List Char} (oneLine : '\n' ∉ body)
      (ended : ∀ char ∈ rest.head?, char = '\n') : Spells .comment ('/' :: '/' :: body) rest
  | openString {body : List Char} (never : '"' ∉ body) : Spells .openString ('"' :: body) []

/-- No prefix of the same text that is spelled like a piece is longer. -/
structure IsLongest (role : Role) (text rest : List Char) : Prop where
  spells : Spells role text rest
  longest : ∀ {otherRole : Role} {other behind : List Char}, other ++ behind = text ++ rest →
    Spells otherRole other behind → other.length ≤ text.length

/-- A text and its pieces, each the longest that starts where it does. -/
inductive LongestCut : List Char → List Piece → Prop where
  | nil : LongestCut [] []
  | spelled {role : Role} {text rest : List Char} {parts : List Piece}
      (longest : IsLongest role text rest) (later : LongestCut rest parts) :
      LongestCut (text ++ rest) (⟨role, text⟩ :: parts)
  | stray {char : Char} {rest : List Char} {parts : List Piece}
      (unspelled : ∀ {role : Role} {text behind : List Char}, text ++ behind = char :: rest →
        ¬ Spells role text behind)
      (later : LongestCut rest parts) : LongestCut (char :: rest) (⟨.stray, [char]⟩ :: parts)

/-! ## Characters and marks -/

theorem isNameStart_iff (char : Char) :
    isNameStart char = true ↔ char.isAlpha = true ∨ char = '_' := by
  simp [isNameStart]

theorem isNamePart_iff (char : Char) :
    isNamePart char = true ↔ char.isAlphanum = true ∨ char = '_' := by
  simp only [isNamePart, isNameStart, Char.isAlphanum, Bool.or_eq_true, beq_iff_eq]
  constructor
  · rintro ((letter | underscore) | digit)
    · exact Or.inl (Or.inl letter)
    · exact Or.inr underscore
    · exact Or.inl (Or.inr digit)
  · rintro ((letter | digit) | underscore)
    · exact Or.inl (Or.inl letter)
    · exact Or.inr digit
    · exact Or.inl (Or.inr underscore)

theorem isBlank_iff (char : Char) : isBlank char = true ↔ char ∈ [' ', '\t', '\r', '\n'] := by
  simp only [isBlank, Bool.or_eq_true, beq_iff_eq, List.mem_cons, List.not_mem_nil, or_false]
  constructor
  · rintro (((rfl | rfl) | rfl) | rfl) <;> simp
  · rintro (rfl | rfl | rfl | rfl) <;> simp

theorem spelling_of_soleMark {char : Char} {mark : Token.Punctuator}
    (sole : soleMark? char = some mark) : mark.spelling.toList = [char] := by
  unfold soleMark? at sole
  split at sole <;> cases sole <;> rfl

theorem spelling_of_equalMarks {char : Char} {alone extended : Token.Punctuator}
    (extensible : equalMarks? char = some (alone, extended)) :
    alone.spelling.toList = [char] ∧ extended.spelling.toList = [char, '='] := by
  unfold equalMarks? at extensible
  split at extensible <;> cases extensible <;> exact ⟨rfl, rfl⟩

/-- A mark is a character of its own, a slash, or one of the two that an equals sign tells apart. -/
theorem mark_shapes (mark : Token.Punctuator) :
    (∃ char, mark.spelling.toList = [char] ∧ soleMark? char = some mark) ∨
    (mark = .slash ∧ mark.spelling.toList = ['/']) ∨
    (∃ char extended, mark.spelling.toList = [char] ∧
      equalMarks? char = some (mark, extended)) ∨
    (∃ char alone, mark.spelling.toList = [char, '='] ∧
      equalMarks? char = some (alone, mark)) := by
  cases mark <;>
    first
    | exact Or.inl ⟨_, rfl, rfl⟩
    | exact Or.inr (Or.inl ⟨rfl, rfl⟩)
    | exact Or.inr (Or.inr (Or.inl ⟨_, _, rfl, rfl⟩))
    | exact Or.inr (Or.inr (Or.inr ⟨_, _, rfl, rfl⟩))

/-! ## What is cut off is spelled -/

theorem Spells.ne_endOfInput {role : Role} {text rest : List Char}
    (spells : Spells role text rest) : role ≠ .token .endOfInput := by
  cases spells <;> exact fun impossible => by cases impossible

theorem Spells.append_ne_nil {role : Role} {text rest : List Char}
    (spells : Spells role text rest) : text ++ rest ≠ [] := by
  cases spells with
  | mark mark =>
      rcases mark_shapes mark with ⟨_, spelled, _⟩ | ⟨_, spelled⟩ | ⟨_, _, spelled, _⟩ |
        ⟨_, _, spelled, _⟩ <;> simp [spelled]
  | number numeral =>
      cases numeral with
      | whole some => simp [some]
      | fraction some => simp [some]
  | keyword name =>
      cases name
      simp
  | identifier name =>
      cases name
      simp
  | string => simp
  | blank => simp
  | comment => simp
  | openString => simp

theorem spells_name {first : Char} {more : List Char} (starts : isNameStart first = true)
    (all : ∀ char ∈ more, isNamePart char = true) (rest : List Char) :
    Spells (.token (.ofName (String.ofList (first :: more)))) (first :: more) rest := by
  have name : NameText (first :: more) :=
    .intro ((isNameStart_iff first).mp starts)
      (fun char member => (isNamePart_iff char).mp (all char member))
  cases kind : Token.Keyword.ofSpelling? (String.ofList (first :: more)) with
  | some word =>
      have listed := (Token.Keyword.ofSpelling?_eq_some_iff _ _).mp kind
      rw [(Token.Kind.ofName_eq_keyword_iff _ _).mpr listed]
      exact .keyword name listed rest
  | none =>
      have unlisted : ∀ word, (String.ofList (first :: more), word) ∉ Token.Keyword.table := by
        intro word listed
        rw [(Token.Keyword.ofSpelling?_eq_some_iff _ _).mpr listed] at kind
        cases kind
      rw [(Token.Kind.ofName_eq_identifier_iff _).mpr unlisted]
      exact .identifier name unlisted rest

/-- What is cut off a text is spelled like its role says, unless nothing there is spelled at all. -/
theorem spells_cutAt (first : Char) (following : List Char) :
    cutAt first following = ⟨.stray, [], following⟩ ∨
      Spells (cutAt first following).role (first :: (cutAt first following).more)
        (cutAt first following).rest := by
  rcases first_shapes first with ⟨mark, sole⟩ | ⟨alone, extended, extensible⟩ | rfl | rfl | blank |
    digit | starts | stray
  · rw [cutAt_of_soleMark following sole, ← spelling_of_soleMark sole]
    exact Or.inr (.mark mark following)
  · rw [cutAt_of_equalMarks following extensible]
    rcases spelling_of_equalMarks extensible with ⟨aloneText, extendedText⟩
    rcases head_shapes '=' following with ⟨rest, rfl⟩ | notEqual
    · exact Or.inr (extendedText ▸ .mark extended rest)
    · rw [cutMark_of_ne alone extended notEqual, ← aloneText]
      exact Or.inr (.mark alone following)
  · rw [cutAt_slash]
    rcases head_shapes '/' following with ⟨line, rfl⟩ | slash
    · rcases IsRun.exists_eq_append (· != '\n') line with ⟨body, rest, rfl, run⟩
      rw [cutSlash_comment run]
      refine Or.inr (.comment (run.not_mem (by decide)) ?_)
      intro char starts
      simpa using run.stops char starts
    · rw [cutSlash_of_ne slash]
      exact Or.inr (.mark .slash following)
  · rw [cutAt_quote]
    rcases string_shapes following with ⟨body, rest, rfl, inside⟩ | never
    · rw [cutString_closed inside rest]
      exact Or.inr (.string inside rest)
    · rw [cutString_open never]
      exact Or.inr (.openString never)
  · rw [cutAt_of_isBlank following blank]
    exact Or.inr (.blank ((isBlank_iff first).mp blank) following)
  · rw [cutAt_of_isDigit following digit]
    rcases number_shapes following with ⟨digits, rest, rfl, whole, noFraction⟩ |
      ⟨digits, places, rest, rfl, whole, some, fraction⟩
    · rw [cutNumber_whole first whole noFraction]
      refine Or.inr (.number (.whole (List.cons_ne_nil _ _) ?_) rest)
      exact List.forall_mem_cons.mpr ⟨digit, whole.all⟩
    · rw [cutNumber_fraction first whole some fraction]
      refine Or.inr (.number (.fraction (List.cons_ne_nil first digits) ?_ some fraction.all) rest)
      exact List.forall_mem_cons.mpr ⟨digit, whole⟩
  · rw [cutAt_of_isNameStart following starts]
    rcases IsRun.exists_eq_append isNamePart following with ⟨more, rest, rfl, run⟩
    rw [cutName_run first run]
    exact Or.inr (spells_name starts run.all rest)
  · exact Or.inl (cutAt_of_isStray following stray)

/-! ## Nothing longer is spelled -/

/-- A piece that starts with `first` takes in `text`, and is in that role if it is no longer. -/
structure TakesIn (role : Role) (text : List Char) (first : Char) (cut : Cut) : Prop where
  notStray : cut.role ≠ .stray
  within : text <+: first :: cut.more
  sameRole : text = first :: cut.more → role = cut.role

theorem takesIn_refl {role : Role} (first : Char) (more rest : List Char)
    (notStray : role ≠ .stray) : TakesIn role (first :: more) first ⟨role, more, rest⟩ :=
  ⟨notStray, List.prefix_rfl, fun _ => rfl⟩

theorem takesIn_mark (mark : Token.Punctuator) {first : Char} {following rest : List Char}
    (divided : mark.spelling.toList ++ rest = first :: following) :
    TakesIn (.token (.punctuator mark)) mark.spelling.toList first (cutAt first following) := by
  rcases mark_shapes mark with ⟨char, spelled, sole⟩ | ⟨rfl, spelled⟩ |
    ⟨char, extended, spelled, extensible⟩ | ⟨char, alone, spelled, extensible⟩
  all_goals
    simp only [spelled, List.cons_append, List.nil_append] at divided ⊢
    cases divided
  · rw [cutAt_of_soleMark _ sole]
    exact takesIn_refl _ _ _ (by simp)
  · rw [cutAt_slash]
    rcases head_shapes '/' following with ⟨line, rfl⟩ | slash
    · exact ⟨by simp [cutSlash], ⟨_, rfl⟩, by simp [cutSlash]⟩
    · rw [cutSlash_of_ne slash]
      exact takesIn_refl _ _ _ (by simp)
  · rw [cutAt_of_equalMarks _ extensible]
    rcases head_shapes '=' following with ⟨behind, rfl⟩ | notEqual
    · exact ⟨by simp [cutMark], ⟨_, rfl⟩, by simp [cutMark]⟩
    · rw [cutMark_of_ne mark extended notEqual]
      exact takesIn_refl _ _ _ (by simp)
  · rw [cutAt_of_equalMarks _ extensible]
    exact takesIn_refl _ _ _ (by simp)

/-- More digits, or a point with digits behind it, may follow: the piece goes on with them. -/
theorem takesIn_whole {first : Char} {digits : List Char}
    (all : ∀ digit ∈ first :: digits, digit.isDigit = true) (rest : List Char) :
    TakesIn (.token (.number (Number.numeralValue (first :: digits)))) (first :: digits) first
      (cutAt first (digits ++ rest)) := by
  rcases List.forall_mem_cons.mp all with ⟨digit, allDigits⟩
  rw [cutAt_of_isDigit _ digit]
  rcases number_shapes (digits ++ rest) with ⟨whole, behind, same, run, noFraction⟩ |
    ⟨whole, places, behind, same, allWhole, some, fraction⟩
  · have start := run.isPrefix_of_all allDigits same
    rw [same, cutNumber_whole first run noFraction]
    refine ⟨by simp, List.cons_prefix_cons.mpr ⟨rfl, start⟩, ?_⟩
    intro equal
    rw [equal]
  · have run : IsRun Char.isDigit whole ('.' :: (places ++ behind)) := ⟨allWhole, by simp⟩
    have start := run.isPrefix_of_all allDigits same
    rw [same, cutNumber_fraction first allWhole some fraction]
    refine ⟨by simp, List.cons_prefix_cons.mpr ⟨rfl, start.trans (List.prefix_append _ _)⟩, ?_⟩
    intro equal
    rw [equal]

theorem takesIn_fraction {first : Char} {digits places : List Char}
    (all : ∀ digit ∈ first :: digits, digit.isDigit = true) (some : places ≠ [])
    (allPlaces : ∀ digit ∈ places, digit.isDigit = true) (rest : List Char) :
    TakesIn (.token (.number (Number.numeralValue (first :: (digits ++ '.' :: places)))))
      (first :: (digits ++ '.' :: places)) first
      (cutAt first (digits ++ '.' :: (places ++ rest))) := by
  rcases List.forall_mem_cons.mp all with ⟨digit, allDigits⟩
  have run : IsRun Char.isDigit digits ('.' :: (places ++ rest)) := ⟨allDigits, by simp⟩
  rcases IsRun.exists_eq_append Char.isDigit rest with ⟨more, behind, rfl, tail⟩
  have fraction : IsRun Char.isDigit (places ++ more) behind :=
    ⟨List.forall_mem_append.mpr ⟨allPlaces, tail.all⟩, tail.stops⟩
  have someMore : places ++ more ≠ [] := by simp [some]
  rw [cutAt_of_isDigit _ digit, ← List.append_assoc places,
    cutNumber_fraction first allDigits someMore fraction]
  refine ⟨by simp, ⟨more, by simp⟩, ?_⟩
  intro equal
  rw [equal]

theorem takesIn_name {first : Char} {more : List Char} (name : NameText (first :: more))
    (rest : List Char) :
    TakesIn (.token (.ofName (String.ofList (first :: more)))) (first :: more) first
      (cutAt first (more ++ rest)) := by
  cases name with
  | intro starts goesOn =>
      have isStart := (isNameStart_iff first).mpr starts
      have allParts : ∀ char ∈ more, isNamePart char = true :=
        fun char member => (isNamePart_iff char).mpr (goesOn char member)
      rcases IsRun.exists_eq_append isNamePart rest with ⟨tail, behind, rfl, run⟩
      have whole : IsRun isNamePart (more ++ tail) behind :=
        ⟨List.forall_mem_append.mpr ⟨allParts, run.all⟩, run.stops⟩
      rw [cutAt_of_isNameStart _ isStart, ← List.append_assoc, cutName_run first whole]
      refine ⟨by simp, ⟨tail, by simp⟩, ?_⟩
      intro equal
      rw [equal]

/-- Whatever a text starts with that is spelled like a piece, the piece cut off takes it in. -/
theorem Spells.takesIn_cutAt {role : Role} {text rest : List Char} {first : Char}
    {following : List Char} (spells : Spells role text rest)
    (divided : text ++ rest = first :: following) :
    TakesIn role text first (cutAt first following) := by
  cases spells with
  | mark mark => exact takesIn_mark mark divided
  | @string body inside =>
      rw [List.cons_append, List.append_assoc] at divided
      cases divided
      rw [cutAt_quote, List.singleton_append, cutString_closed inside]
      exact takesIn_refl _ _ _ (by simp)
  | number numeral =>
      cases numeral with
      | whole some all =>
          cases text with
          | nil => exact absurd rfl some
          | cons digit digits =>
              cases divided
              exact takesIn_whole all rest
      | @fraction digits places some all somePlaces allPlaces =>
          cases digits with
          | nil => exact absurd rfl some
          | cons digit digits =>
              rw [List.append_assoc, List.cons_append, List.cons_append] at divided
              cases divided
              exact takesIn_fraction all somePlaces allPlaces rest
  | keyword name listed =>
      cases name with
      | intro starts goesOn =>
          cases divided
          rw [← (Token.Kind.ofName_eq_keyword_iff _ _).mpr listed]
          exact takesIn_name (.intro starts goesOn) rest
  | identifier name unlisted =>
      cases name with
      | intro starts goesOn =>
          cases divided
          rw [← (Token.Kind.ofName_eq_identifier_iff _).mpr unlisted]
          exact takesIn_name (.intro starts goesOn) rest
  | blank member =>
      cases divided
      rw [cutAt_of_isBlank _ ((isBlank_iff first).mpr member)]
      exact takesIn_refl _ _ _ (by simp)
  | @comment body _ oneLine ended =>
      rw [List.cons_append, List.cons_append] at divided
      cases divided
      rw [cutAt_slash, cutSlash_comment (IsRun.ne_of_not_mem oneLine ended)]
      exact takesIn_refl _ _ _ (by simp)
  | openString never =>
      rw [List.append_nil] at divided
      cases divided
      rw [cutAt_quote, cutString_open never]
      exact takesIn_refl _ _ _ (by simp)

/-- The piece cut off is the longest that is spelled. -/
theorem isLongest_cutAt {first : Char} {following : List Char}
    (spells : Spells (cutAt first following).role (first :: (cutAt first following).more)
      (cutAt first following).rest) :
    IsLongest (cutAt first following).role (first :: (cutAt first following).more)
      (cutAt first following).rest where
  spells := spells
  longest := by
    intro otherRole other behind divided otherSpells
    rw [List.cons_append, cutAt_append] at divided
    exact (otherSpells.takesIn_cutAt divided).within.length_le

/-! ## All pieces -/

/-- The pieces of a text are a longest cut of it. -/
theorem longestCut_pieces (text : List Char) : LongestCut text (pieces text) := by
  induction text using pieces.induct with
  | case1 =>
      rw [pieces_nil]
      exact .nil
  | case2 first following later =>
      rw [pieces_cons]
      rcases spells_cutAt first following with isStray | spells
      · rw [isStray] at later ⊢
        refine .stray ?_ later
        intro role text behind divided spells
        have notStray := (spells.takesIn_cutAt divided).notStray
        rw [isStray] at notStray
        exact notStray rfl
      · have cut : LongestCut (first :: (cutAt first following).more ++ (cutAt first following).rest) _ :=
          .spelled (isLongest_cutAt spells) later
        rwa [List.cons_append, cutAt_append] at cut

/-- A text has no other longest cut. -/
theorem LongestCut.eq_pieces {text : List Char} {parts : List Piece}
    (cut : LongestCut text parts) : parts = pieces text := by
  induction cut with
  | nil => exact pieces_nil.symm
  | @spelled role text rest parts longest later ih =>
      -- Each of the two texts is a prefix of the other: one is taken in, the other is the longest.
      cases divided : text ++ rest with
      | nil => exact absurd divided longest.spells.append_ne_nil
      | cons first following =>
          have takesIn := longest.spells.takesIn_cutAt divided
          have spells := (spells_cutAt first following).resolve_left
            (fun isStray => takesIn.notStray (by rw [isStray]))
          have notLonger := longest.longest
            (by rw [List.cons_append, cutAt_append, divided]) spells
          have same := takesIn.within.eq_of_length_le notLonger
          have sameRest : rest = (cutAt first following).rest := by
            rw [same, List.cons_append] at divided
            have behind := (List.cons.inj divided).2.trans (cutAt_append first following).symm
            exact List.append_cancel_left behind
          rw [pieces_cons, ih, ← takesIn.sameRole same, ← same, ← sameRest]
  | @stray char rest parts unspelled later ih =>
      have isStray := (spells_cutAt char rest).resolve_right
        (fun spells => unspelled (by rw [List.cons_append, cutAt_append]) spells)
      rw [pieces_cons, isStray, ih]

/-- The pieces of a text are its one longest cut. -/
theorem longestCut_iff (text : List Char) (parts : List Piece) :
    LongestCut text parts ↔ parts = pieces text := by
  constructor
  · exact LongestCut.eq_pieces
  · rintro rfl
    exact longestCut_pieces text

/-- The token that ends the list is cut off nowhere. -/
theorem role_ne_endOfInput {text : List Char} {piece : Piece} (member : piece ∈ pieces text) :
    piece.role ≠ .token .endOfInput := by
  have cut := longestCut_pieces text
  generalize pieces text = parts at cut member
  induction cut with
  | nil => cases member
  | spelled longest later ih =>
      rcases List.mem_cons.mp member with rfl | behind
      · exact longest.spells.ne_endOfInput
      · exact ih behind
  | stray unspelled later ih =>
      rcases List.mem_cons.mp member with rfl | behind
      · exact fun impossible => by cases impossible
      · exact ih behind

/-- What a piece is a token of is not the end of input. -/
theorem isEndOfInput_of_token? {text : List Char} {placed : Placed} {token : Token}
    (member : placed.piece ∈ pieces text) (found : placed.token? = some token) :
    token.isEndOfInput = false := by
  have different := role_ne_endOfInput member
  rw [(Placed.token?_eq_some found).2] at different
  refine beq_eq_false_iff_ne.mpr ?_
  intro same
  rw [same] at different
  exact different rfl

/-- The token at the end of a text is none of the others. -/
theorem isEndOfInput_of_mem_tokensOf {text : List Char} {token : Token}
    (member : token ∈ tokensOf (placedPieces text)) : token.isEndOfInput = false := by
  rcases List.mem_filterMap.mp member with ⟨placed, memberPlaced, found⟩
  have isPiece : placed.piece ∈ pieces text := by
    rw [← map_piece_layOut [] (pieces text)]
    exact List.mem_map_of_mem memberPlaced
  exact isEndOfInput_of_token? isPiece found

/-- A source has exactly one longest cut, and a scan answers what that cut says: each piece that is
a token, in its place, with the end of input behind them, and an error for each stray character and
for a string left open. -/
theorem scan_eq_longestCut (source : String) :
    ∃ parts,
      (∀ others, LongestCut source.toList others ↔ others = parts) ∧
      (scan source).tokens =
        tokensOf (layOut [] parts) ++
          [Token.endOfInput (lineBehind source.toList) source.utf8ByteSize] ∧
      (scan source).errors = errorsOf (layOut [] parts) := by
  refine ⟨pieces source.toList, ?_, ?_, ?_⟩
  · intro others
    constructor
    · exact LongestCut.eq_pieces
    · rintro rfl
      exact longestCut_pieces source.toList
  · rw [scan, scanText_eq, TokenStream.finalToken, Text.byteLength_toList, placedPieces]
  · rw [scan, scanText_eq, placedPieces]

end Scan
end LoxTokenizer

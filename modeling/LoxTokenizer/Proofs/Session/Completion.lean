import LoxTokenizer.Proofs.Text.Run
import LoxTokenizer.Session.Completion

namespace LoxTokenizer
namespace Session

open Text (IsRun)

/-!
# Completing words

A place in a line has a word right before it, though perhaps an empty one.  The word is told without
a search: it is made of the characters of words, and what stands in front of it does not end in one.
Wherever the line can be cut there is such a place.

A word is completed by known words, which are made of the same characters.  So when the missing part
is inserted the word goes on from its old start up to the new place, whatever is behind that, and
then it is a known word of which nothing is missing.
-/

/-! ## Places -/

/-- A letter or a digit of ASCII, an underscore or a dot. -/
def WordPart (char : Char) : Prop := char.isAlphanum = true ∨ char = '_' ∨ char = '.'

theorem isWordPart_iff (char : Char) : isWordPart char = true ↔ WordPart char := by
  simp [isWordPart, WordPart, or_assoc]

instance (char : Char) : Decidable (WordPart char) := decidable_of_iff _ (isWordPart_iff char)

theorem isWordPart_eq_false_iff (char : Char) : isWordPart char = false ↔ ¬ WordPart char := by
  rw [← isWordPart_iff, Bool.not_eq_true]

theorem wordParts_of_all {text : List Char} (all : text.all isWordPart = true) :
    ∀ char ∈ text, WordPart char := by
  intro char member
  exact (isWordPart_iff char).mp (List.all_eq_true.mp all char member)

/-- A place in a line: what is in front of the word before it, that word, and what is behind. -/
structure Place where
  front : List Char
  word : List Char
  after : List Char
  parts : ∀ char ∈ word, WordPart char
  stops : ∀ char ∈ front.getLast?, ¬ WordPart char

namespace Place

/-- The line that the place is in. -/
def line (place : Place) : String := String.ofList (place.front ++ place.word ++ place.after)

/-- The byte that the word before the place starts at. -/
def start (place : Place) : Nat := Text.byteLength place.front

/-- The byte that the place is at. -/
def position (place : Place) : Nat := Text.byteLength (place.front ++ place.word)

/-- The place behind more characters of the word. -/
def extend (place : Place) (more : List Char) (parts : ∀ char ∈ more, WordPart char) : Place where
  front := place.front
  word := place.word ++ more
  after := place.after
  parts := List.forall_mem_append.mpr ⟨place.parts, parts⟩
  stops := place.stops

theorem line_extend (place : Place) {more : List Char} (parts : ∀ char ∈ more, WordPart char) :
    (place.extend more parts).line =
      String.ofList (place.front ++ place.word ++ more ++ place.after) := by
  rw [line, extend, List.append_assoc place.front place.word more]

theorem position_extend (place : Place) {more : List Char} (parts : ∀ char ∈ more, WordPart char) :
    (place.extend more parts).position = place.position + Text.byteLength more := by
  rw [position, extend, position, ← List.append_assoc, Text.byteLength_append]

end Place

/-- Every text ends in a word. -/
theorem exists_word (before : List Char) :
    ∃ front word, before = front ++ word ∧ (∀ char ∈ word, WordPart char) ∧
      ∀ char ∈ front.getLast?, ¬ WordPart char := by
  rcases IsRun.exists_eq_append isWordPart before.reverse with ⟨run, rest, divided, isRun⟩
  refine ⟨rest.reverse, run.reverse, ?_, ?_, ?_⟩
  · rw [← List.reverse_append, ← divided, List.reverse_reverse]
  · intro char member
    exact (isWordPart_iff char).mp (isRun.all char (List.mem_reverse.mp member))
  · intro char last
    rw [List.getLast?_reverse] at last
    exact (isWordPart_eq_false_iff char).mp (isRun.stops char last)

/-- The word that is looked for from the end is the word before the place. -/
theorem wordAtEnd_place (place : Place) : wordAtEnd (place.front ++ place.word) = place.word := by
  have run : IsRun isWordPart place.word.reverse place.front.reverse := by
    constructor
    · intro char member
      exact (isWordPart_iff char).mpr (place.parts char (List.mem_reverse.mp member))
    · intro char first
      rw [List.head?_reverse] at first
      exact (isWordPart_eq_false_iff char).mpr (place.stops char first)
  rw [wordAtEnd, List.reverse_append, run.takeWhile_eq, List.reverse_reverse]

/-- Where a line can be cut there is a place. -/
theorem exists_place {line : String} {position : Nat}
    (boundary : String.Pos.Raw.IsValid line ⟨position⟩) :
    ∃ place : Place, place.line = line ∧ place.position = position := by
  rcases String.Pos.Raw.isValid_iff_exists_append.mp boundary with ⟨before, after, rfl, isEnd⟩
  rcases exists_word before.toList with ⟨front, word, divided, parts, stops⟩
  refine ⟨⟨front, word, after.toList, parts, stops⟩, ?_, ?_⟩
  · rw [Place.line, ← divided, String.ofList_append, String.ofList_toList, String.ofList_toList]
  · rw [Place.position, ← divided, Text.byteLength_toList]
    exact (congrArg String.Pos.Raw.byteIdx isEnd).symm

/-! ## Offers -/

theorem completionWords_nodup : completionWords.Nodup := by decide +kernel

theorem wordPart_of_mem_completionWords {known : String} (listed : known ∈ completionWords) :
    ∀ char ∈ known.toList, WordPart char := by
  have all : ∀ known ∈ completionWords, known.toList.all isWordPart = true := by decide +kernel
  exact wordParts_of_all (all known listed)

theorem completionsOf_of_ne_nil {word : List Char} (some : word ≠ []) :
    completionsOf word =
      (completionWords.filter fun known => word.isPrefixOf known.toList).map fun known =>
        ⟨known, String.ofList (known.toList.drop word.length)⟩ := by
  rw [completionsOf, List.isEmpty_eq_false_iff.mpr some, if_neg Bool.false_ne_true]

/-- An offer is a known word that starts with the word, and what of it is missing. -/
theorem mem_completionsOf {word : List Char} {offer : Completion} :
    offer ∈ completionsOf word ↔
      offer.word ∈ completionWords ∧ word ≠ [] ∧ word ++ offer.missing.toList = offer.word.toList := by
  by_cases some : word = []
  · simp [completionsOf, some]
  · rw [completionsOf_of_ne_nil some]
    simp only [List.mem_map, List.mem_filter, List.isPrefixOf_iff_prefix]
    constructor
    · rintro ⟨known, ⟨listed, rest, divided⟩, rfl⟩
      refine ⟨listed, some, ?_⟩
      rw [String.toList_ofList, ← divided, List.drop_left]
    · rintro ⟨listed, _, divided⟩
      refine ⟨offer.word, ⟨listed, _, divided⟩, ?_⟩
      rw [← divided, List.drop_left, String.ofList_toList]

theorem map_word_completionsOf_sublist (word : List Char) :
    ((completionsOf word).map Completion.word).Sublist completionWords := by
  by_cases some : word = []
  · simp [completionsOf, some]
  · rw [completionsOf_of_ne_nil some, List.map_map]
    exact (List.map_id _).symm ▸ List.filter_sublist

theorem mem_map_word_completionsOf {word : List Char} {known : String} :
    known ∈ (completionsOf word).map Completion.word ↔
      known ∈ completionWords ∧ word ≠ [] ∧ word <+: known.toList := by
  rw [List.mem_map]
  constructor
  · rintro ⟨offer, offered, rfl⟩
    rcases mem_completionsOf.mp offered with ⟨listed, some, divided⟩
    exact ⟨listed, some, _, divided⟩
  · rintro ⟨listed, some, rest, divided⟩
    refine ⟨⟨known, String.ofList rest⟩, mem_completionsOf.mpr ⟨listed, some, ?_⟩, rfl⟩
    rw [String.toList_ofList, divided]

/-! ## The aid at a place -/

theorem wordAid?_place (place : Place) :
    wordAid? place.line place.position =
      some
        { wordStart := place.start
          completions := completionsOf place.word
          hint := if place.after.isEmpty then (missingPart? place.word).map dimmed else none } := by
  have start : Text.byteLength (place.front ++ place.word) - Text.byteLength place.word =
      place.start := by
    rw [Text.byteLength_append, Nat.add_sub_cancel, Place.start]
  rw [wordAid?, Place.line, String.toList_ofList, Place.position, Text.splitAtByte?_append,
    Option.map_some]
  simp only [wordAtEnd_place, start]

/-- What is missing of a word is made of the same characters, since the known words are. -/
theorem wordPart_of_mem_missing {word : List Char} {offer : Completion}
    (offered : offer ∈ completionsOf word) : ∀ char ∈ offer.missing.toList, WordPart char := by
  rcases mem_completionsOf.mp offered with ⟨listed, _, divided⟩
  intro char member
  apply wordPart_of_mem_completionWords listed
  rw [← divided]
  exact List.mem_append_right word member

/-- Of a known word nothing is missing. -/
theorem complete_mem_completionsOf {known : String} (listed : known ∈ completionWords)
    (some : known.toList ≠ []) : ⟨known, ""⟩ ∈ completionsOf known.toList :=
  mem_completionsOf.mpr ⟨listed, some, List.append_nil _⟩

/-- Wherever a line can be cut, the word before that place is offered exactly the known words that
start with it, each once and in the order of the table; an empty word is offered none.  When the
missing part of an offer is inserted at the place, the word there still starts where it did, and it is
the word offered, which is offered again with nothing missing. -/
theorem completed_at_place (line : String) (position : Nat)
    (boundary : String.Pos.Raw.IsValid line ⟨position⟩) :
    ∃ (place : Place) (aid : WordAid), place.line = line ∧ place.position = position ∧
      wordAid? line position = some aid ∧ aid.wordStart = place.start ∧
      (aid.completions.map Completion.word).Sublist completionWords ∧
      (aid.completions.map Completion.word).Nodup ∧
      (∀ known, known ∈ aid.completions.map Completion.word ↔
        known ∈ completionWords ∧ place.word ≠ [] ∧ place.word <+: known.toList) ∧
      ∀ offer ∈ aid.completions, ∃ (completed : Place) (again : WordAid),
        completed.line =
          String.ofList (place.front ++ place.word ++ offer.missing.toList ++ place.after) ∧
        completed.position = position + offer.missing.utf8ByteSize ∧
        wordAid? completed.line completed.position = some again ∧
        again.wordStart = completed.start ∧ completed.start = aid.wordStart ∧
        completed.word = offer.word.toList ∧ ⟨offer.word, ""⟩ ∈ again.completions := by
  rcases exists_place boundary with ⟨place, rfl, rfl⟩
  have ordered := map_word_completionsOf_sublist place.word
  refine ⟨place, _, rfl, rfl, wordAid?_place place, rfl, ordered, ordered.nodup completionWords_nodup,
    fun known => mem_map_word_completionsOf, ?_⟩
  intro offer offered
  rcases mem_completionsOf.mp offered with ⟨listed, some, divided⟩
  have parts := wordPart_of_mem_missing offered
  have completed : (place.extend offer.missing.toList parts).word = offer.word.toList := divided
  have someKnown : offer.word.toList ≠ [] := by
    rw [← divided]
    exact List.append_ne_nil_of_left_ne_nil some _
  refine ⟨place.extend offer.missing.toList parts, _, place.line_extend parts, ?_, wordAid?_place _,
    rfl, rfl, completed, ?_⟩
  · rw [place.position_extend, Text.byteLength_toList]
  · rw [completed]
    exact complete_mem_completionsOf listed someKnown

/-- A command between two characters that are more than a byte long. -/
theorem completed_at_place_load :
    String.Pos.Raw.IsValid "é.l→" ⟨4⟩ ∧
    ∃ aid, wordAid? "é.l→" 4 = some aid ∧ aid.wordStart = 2 ∧
      aid.completions = [⟨".load", "oad"⟩] ∧
      ∃ (completed : Place) (again : WordAid), completed.start = 2 ∧ completed.position = 7 ∧
        completed.word = ".load".toList ∧ wordAid? completed.line 7 = some again ∧
        ⟨".load", ""⟩ ∈ again.completions := by
  have boundary : String.Pos.Raw.IsValid "é.l→" ⟨4⟩ :=
    String.Pos.Raw.isValid_iff_exists_append.mpr ⟨"é.l", "→", by decide, by decide⟩
  have offers : (wordAid? "é.l→" 4).map (fun aid => (aid.wordStart, aid.completions)) =
      some (2, [⟨".load", "oad"⟩]) := by decide +kernel
  rcases completed_at_place "é.l→" 4 boundary with
    ⟨place, ⟨start, completions, hint⟩, _, _, aided, _, _, _, _, completing⟩
  rw [aided] at offers
  cases offers
  rcases completing ⟨".load", "oad"⟩ (List.mem_singleton.mpr rfl) with
    ⟨completed, again, _, place, aidedAgain, _, start, word, offered⟩
  rw [place] at aidedAgain
  exact ⟨boundary, _, aided, rfl, rfl, completed, again, start, place, word, aidedAgain, offered⟩

end Session
end LoxTokenizer

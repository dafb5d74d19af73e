import LoxTokenizer.Proofs.Session.Completion
import LoxTokenizer.Proofs.Style.Plain
import LoxTokenizer.Text.Alphanumeric

namespace LoxTokenizer
namespace Session

open Style (Clean Shows)

/-!
# Hints

A hint is looked for in the table of known words on its own, and yet it is the missing part of the first
offer that has one, provided that the place is at the end of the line and the word there is not too
short.

What a hint shows would complete the word.  But the hint is that text in faint print, and an editor that
inserts a hint as it is inserts the control sequences with it.  The one that turns the faint print off
ends in a digit and a letter, and these two are then the word at the end of the line, whatever the line
was.
-/

/-! ## What words are made of -/

/-- The parts of words are visible characters of ASCII. -/
theorem WordPart.code_bounds {char : Char} (part : WordPart char) :
    0x20 < char.toNat ∧ char.toNat < 0x7f := by
  rcases part with alphanumeric | rfl | rfl
  · have bounds := Text.code_of_isAlphanum alphanumeric
    omega
  · decide
  · decide

theorem WordPart.utf8Size_eq {char : Char} (part : WordPart char) : char.utf8Size = 1 := by
  rw [Char.utf8Size_eq_one_iff, UInt32.le_iff_toNat_le]
  exact Nat.le_of_lt_succ (Nat.lt_trans part.code_bounds.2 (by decide))

/-- A word has as many bytes as characters. -/
theorem byteLength_of_wordParts {word : List Char} (parts : ∀ char ∈ word, WordPart char) :
    Text.byteLength word = word.length := by
  induction word with
  | nil => rfl
  | cons char rest ih =>
      rcases List.forall_mem_cons.mp parts with ⟨part, partsBehind⟩
      rw [Text.byteLength_cons, part.utf8Size_eq, ih partsBehind, List.length_cons, Nat.add_comm]

theorem clean_of_wordParts {text : List Char} (parts : ∀ char ∈ text, WordPart char) :
    Clean text := by
  intro member
  exact absurd (parts _ member).code_bounds.1 (by decide)

/-! ## Two searches in one table -/

/-- The search for a hint comes to the first offer of which something is missing. -/
theorem missingPart?_eq (word : List Char) :
    missingPart? word =
      if word.length < 2 then none
      else ((completionsOf word).find? fun offer => offer.missing ≠ "").map Completion.missing := by
  rw [missingPart?]
  split
  · rfl
  · rename_i long
    have some : word ≠ [] := by
      rintro rfl
      exact long (by decide)
    have sameTest : ∀ known : String,
        decide (String.ofList (known.toList.drop word.length) ≠ "") =
          decide (word.length < known.toList.length) := by
      intro known
      simp
    rw [completionsOf_of_ne_nil some, List.find?_map, List.find?_filter, Option.map_map]
    simp only [Function.comp_def, sameTest, Bool.decide_and, Bool.decide_eq_true]

theorem Place.position_eq_iff (place : Place) :
    place.position = place.line.utf8ByteSize ↔ place.after = [] := by
  rw [position, line, Text.utf8ByteSize_ofList, Text.byteLength_append (place.front ++ place.word)]
  cases place.after with
  | nil => simp
  | cons char rest =>
      have positive := char.utf8Size_pos
      simp only [Text.byteLength_cons, List.cons_ne_nil, iff_false]
      omega

/-! ## Hints and offers -/

theorem isValid_of_wordAid? {line : String} {position : Nat} {aid : WordAid}
    (aided : wordAid? line position = some aid) : String.Pos.Raw.IsValid line ⟨position⟩ := by
  rcases Option.map_eq_some_iff.mp aided with ⟨⟨before, after⟩, cut, _⟩
  rcases Text.splitAtByte?_eq_some cut with ⟨divided, rfl⟩
  refine String.Pos.Raw.isValid_iff_exists_append.mpr
    ⟨String.ofList before, String.ofList after, ?_, ?_⟩
  · rw [← String.ofList_append, divided, String.ofList_toList]
  · rw [← Text.utf8ByteSize_ofList]
    rfl

/-- What is missing of a word shows as it is. -/
theorem shows_dimmed_missing {word : List Char} {offer : Completion}
    (offered : offer ∈ completionsOf word) : Shows (dimmed offer.missing) offer.missing :=
  .apply .dimmed (.clean (clean_of_wordParts (wordPart_of_mem_missing offered)))

/-- At the end of a line there is a hint when an offer has a missing part and the word is not too short. -/
theorem hint_eq_some_iff {place : Place} {aid : WordAid}
    (aided : wordAid? place.line place.position = some aid) (hint : String) :
    aid.hint = some hint ↔
      place.after = [] ∧ 2 ≤ Text.byteLength place.word ∧
        ∃ offer, aid.completions.find? (fun offer => offer.missing ≠ "") = some offer ∧
          dimmed offer.missing = hint := by
  rw [wordAid?_place] at aided
  cases aided
  rw [missingPart?_eq, byteLength_of_wordParts place.parts]
  dsimp only
  cases place.after with
  | cons char rest => simp
  | nil =>
      rw [List.isEmpty_nil, if_pos rfl]
      by_cases short : place.word.length < 2
      · simp [short, Nat.not_le_of_lt short]
      · rw [if_neg short, Option.map_map, Option.map_eq_some_iff]
        simp [Nat.le_of_not_lt short]

/-- Hints agree with offers.  Where a line cannot be cut there is neither.  Anywhere else there is a hint
exactly if the place is the end of the line, the word there has at least two bytes, and something is
offered of which a part is missing; then the hint shows the missing part of the first such offer. -/
theorem hint_agrees (line : String) (position : Nat) :
    (¬ String.Pos.Raw.IsValid line ⟨position⟩ ∧ wordAid? line position = none) ∨
    ∃ (place : Place) (aid : WordAid), place.line = line ∧ place.position = position ∧
      wordAid? line position = some aid ∧ aid.wordStart = place.start ∧
      (aid.hint.isSome ↔
        position = line.utf8ByteSize ∧ 2 ≤ Text.byteLength place.word ∧
          ∃ offer ∈ aid.completions, offer.missing ≠ "") ∧
      ∀ hint, aid.hint = some hint →
        ∃ offer, aid.completions.find? (fun offer => offer.missing ≠ "") = some offer ∧
          Style.plain hint.toList = offer.missing.toList := by
  by_cases boundary : String.Pos.Raw.IsValid line ⟨position⟩
  · rcases exists_place boundary with ⟨place, rfl, rfl⟩
    have aided := wordAid?_place place
    refine Or.inr ⟨place, _, rfl, rfl, aided, rfl, ?_, ?_⟩
    · rw [Option.isSome_iff_exists, place.position_eq_iff]
      simp only [hint_eq_some_iff aided]
      constructor
      · rintro ⟨hint, ends, long, offer, found, _⟩
        have missing : offer.missing ≠ "" := by simpa using List.find?_some found
        exact ⟨ends, long, offer, List.mem_of_find?_eq_some found, missing⟩
      · rintro ⟨ends, long, offer, offered, missing⟩
        have some : ((completionsOf place.word).find? fun offer => offer.missing ≠ "").isSome :=
          List.find?_isSome.mpr ⟨offer, offered, decide_eq_true missing⟩
        rcases Option.isSome_iff_exists.mp some with ⟨first, found⟩
        exact ⟨_, ends, long, first, found, rfl⟩
    · intro hint hinted
      rcases (hint_eq_some_iff aided hint).mp hinted with ⟨_, _, offer, found, rfl⟩
      exact ⟨offer, found, (shows_dimmed_missing (List.mem_of_find?_eq_some found)).plain_eq⟩
  · refine Or.inl ⟨boundary, ?_⟩
    cases aided : wordAid? line position with
    | none => rfl
    | some aid => exact absurd (isValid_of_wordAid? aided) boundary

/-- The end of a line in which a character is longer than a byte. -/
theorem hint_agrees_class :
    ∃ aid, wordAid? "é cla" 6 = some aid ∧ aid.hint = some "\x1b[2mss\x1b[0m" ∧
      aid.completions.find? (fun offer => offer.missing ≠ "") = some ⟨"class", "ss"⟩ ∧
      Style.plain "\x1b[2mss\x1b[0m".toList = "ss".toList := by
  have found : (wordAid? "é cla" 6).map (fun aid =>
      (aid.hint, aid.completions.find? fun offer => offer.missing ≠ "")) =
      some (some "\x1b[2mss\x1b[0m", some ⟨"class", "ss"⟩) := by decide +kernel
  rcases Option.map_eq_some_iff.mp found with ⟨aid, aided, said⟩
  have isHint : aid.hint = some "\x1b[2mss\x1b[0m" := congrArg Prod.fst said
  have isOffer : aid.completions.find? (fun offer => offer.missing ≠ "") = some ⟨"class", "ss"⟩ :=
    congrArg Prod.snd said
  rcases hint_agrees "é cla" 6 with ⟨_, nowhere⟩ | ⟨_, other, _, _, again, _, _, shows⟩
  · cases aided.symm.trans nowhere
  · cases aided.symm.trans again
    rcases shows _ isHint with ⟨offer, first, shown⟩
    cases isOffer.symm.trans first
    exact ⟨aid, aided, isHint, isOffer, shown⟩

/-! ## Accepting a hint -/

/-- The word at the end of a line: what stands behind the byte that it starts at. -/
def lastWord? (line : String) : Option (List Char) :=
  (wordAid? line line.utf8ByteSize).bind fun aid => Text.fromByte? aid.wordStart line.toList

/-- A character that gives orders to a terminal and is not shown. -/
def IsControl (char : Char) : Prop :=
  char.toNat < 0x20 ∨ 0x7f ≤ char.toNat ∧ char.toNat ≤ 0x9f

/-- Added at the end of a line, a text completes the word there: it is what the word lacks of a known
word, that known word is then the word at the end, and no control character has come into the line. -/
structure Completes (line added known : String) : Prop where
  listed : known ∈ completionWords
  lacked : ∃ begun, lastWord? line = some begun ∧ begun ++ added.toList = known.toList
  found : lastWord? (line ++ added) = some known.toList
  noControl : ∀ char ∈ (line ++ added).toList, IsControl char → char ∈ line.toList

theorem Place.lastWord?_line (place : Place) (ends : place.after = []) :
    lastWord? place.line = some place.word := by
  have aided := wordAid?_place place
  rw [place.position_eq_iff.mpr ends] at aided
  rw [lastWord?, aided, Option.bind_some, Text.fromByte?, Place.start, Place.line,
    String.toList_ofList, ends, List.append_nil, Text.splitAtByte?_append]
  rfl

/-- A word behind something that does not end in a part of words. -/
theorem lastWord?_append {front word : String} (parts : ∀ char ∈ word.toList, WordPart char)
    (stops : ∀ char ∈ front.toList.getLast?, ¬ WordPart char) :
    lastWord? (front ++ word) = some word.toList := by
  have found := Place.lastWord?_line ⟨front.toList, word.toList, [], parts, stops⟩ rfl
  rwa [Place.line, List.append_nil, String.ofList_append, String.ofList_toList,
    String.ofList_toList] at found

/-- The missing part of an offer completes the word at the end of a line. -/
theorem completes_missing {place : Place} (ends : place.after = []) {offer : Completion}
    (offered : offer ∈ completionsOf place.word) : Completes place.line offer.missing offer.word := by
  rcases mem_completionsOf.mp offered with ⟨listed, _, divided⟩
  have parts := wordPart_of_mem_missing offered
  have line : (place.extend offer.missing.toList parts).line = place.line ++ offer.missing := by
    rw [place.line_extend parts, Place.line, ends, List.append_nil, List.append_nil,
      String.ofList_append, String.ofList_toList]
  refine ⟨listed, ⟨place.word, place.lastWord?_line ends, divided⟩, ?_, ?_⟩
  · have found := (place.extend offer.missing.toList parts).lastWord?_line ends
    rw [line] at found
    exact found.trans (congrArg some divided)
  · intro char member control
    rw [String.toList_append, List.mem_append] at member
    rcases member with before | missing
    · exact before
    · have bounds := (parts char missing).code_bounds
      rcases control with low | high
      · omega
      · omega

/-- Behind faint text the word at the end is what the last control sequence ends in. -/
theorem lastWord?_append_dimmed (line text : String) :
    lastWord? (line ++ dimmed text) = some "0m".toList := by
  have turnedOff : "\x1b[0m" = "\x1b[" ++ "0m" := by decide
  have divided : line ++ dimmed text = (line ++ "\x1b[2m" ++ text ++ "\x1b[") ++ "0m" := by
    rw [dimmed_eq, turnedOff]
    simp only [String.append_assoc]
  rw [divided]
  apply lastWord?_append
  · exact wordParts_of_all (by decide)
  · intro char last
    rw [String.toList_append, List.getLast?_append] at last
    cases last
    decide

/-- What is shown of a hint completes the word at the end of the line.  The hint itself never does: it
has control sequences around that text, and when it is added as it is, `0m` is the word at the end. -/
theorem hinted_line {line : String} {aid : WordAid} {hint : String}
    (aided : wordAid? line line.utf8ByteSize = some aid) (hinted : aid.hint = some hint) :
    ∃ missing known, hint = "\x1b[2m" ++ missing ++ "\x1b[0m" ∧ missing ≠ "" ∧
      Completes line missing known ∧
      lastWord? (line ++ hint) = some "0m".toList ∧ ∀ other, ¬ Completes line hint other := by
  rcases exists_place (isValid_of_wordAid? aided) with ⟨place, rfl, isPosition⟩
  rw [← isPosition] at aided
  rcases (hint_eq_some_iff aided hint).mp hinted with ⟨ends, _, offer, found, rfl⟩
  have offered : offer ∈ completionsOf place.word := by
    rw [wordAid?_place] at aided
    cases aided
    exact List.mem_of_find?_eq_some found
  have missing : offer.missing ≠ "" := by simpa using List.find?_some found
  have last := lastWord?_append_dimmed place.line offer.missing
  refine ⟨offer.missing, offer.word, dimmed_eq offer.missing, missing,
    completes_missing ends offered, last, ?_⟩
  rintro other completes
  have same : some other.toList = some "0m".toList := completes.found.symm.trans last
  have isOther : other = "0m" := String.toList_injective (Option.some.inj same)
  have unlisted : "0m" ∉ completionWords := by decide
  exact unlisted (isOther ▸ completes.listed)

/-- A hint behind the first two letters of a reserved word. -/
theorem hinted_line_while :
    ∃ aid, wordAid? "wh" 2 = some aid ∧ aid.hint = some "\x1b[2mile\x1b[0m" ∧
      lastWord? ("wh" ++ "\x1b[2mile\x1b[0m") = some "0m".toList := by
  have found : (wordAid? "wh" 2).map WordAid.hint = some (some "\x1b[2mile\x1b[0m") := by
    decide +kernel
  rcases Option.map_eq_some_iff.mp found with ⟨aid, aided, hinted⟩
  rcases hinted_line aided hinted with ⟨_, _, _, _, _, last, _⟩
  exact ⟨aid, aided, hinted, last⟩

/-- The hint brings escape characters into a line that has none, and no known word is completed. -/
theorem not_completes_hint :
    (wordAid? "wh" "wh".utf8ByteSize).bind WordAid.hint = some "\x1b[2mile\x1b[0m" ∧
      '\x1b' ∈ ("wh" ++ "\x1b[2mile\x1b[0m").toList ∧ '\x1b' ∉ "wh".toList ∧
      IsControl '\x1b' ∧ ∀ known, ¬ Completes "wh" "\x1b[2mile\x1b[0m" known := by
  have control : IsControl '\x1b' := Or.inl (by decide)
  have added : '\x1b' ∈ ("wh" ++ "\x1b[2mile\x1b[0m").toList := by decide
  have absent : '\x1b' ∉ "wh".toList := by decide
  refine ⟨by decide +kernel, added, absent, control, ?_⟩
  intro known completes
  exact absent (completes.noControl '\x1b' added control)

end Session
end LoxTokenizer

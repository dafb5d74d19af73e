import LoxTokenizer.Proofs.Scan.Genuine
import LoxTokenizer.Proofs.Scan.Rejection
import LoxTokenizer.Proofs.Session.Brackets
import LoxTokenizer.Proofs.Session.Command
import LoxTokenizer.Proofs.Session.Division

namespace LoxTokenizer
namespace Session

open Scan (leavesOpen)

/-!
# Entries that go on

A text that needs more input has a quote or an opening bracket in it.  Neither is white space, and
neither is in the name of a command; so if the text starts with a dot at all, either it has its whole
name already, which is then the name of no command, or what it starts with can no longer become a
name.  Whatever is written behind it, it is no command then: what was begun as source is answered as
source.

Only backspaces can undo that, since they take back what was begun.
-/

/-! ## What keeps an entry open -/

/-- A character that can keep an entry open. -/
inductive IsOpener : Char → Prop where
  | quote : IsOpener '"'
  | paren : IsOpener '('
  | brace : IsOpener '{'

theorem quote_mem_of_leavesOpen {text : List Char} (unended : leavesOpen text = true) :
    '"' ∈ text := by
  rcases List.any_eq_true.mp unended with ⟨piece, member, isOpen⟩
  rcases Scan.exists_cutAt_of_mem_pieces member with ⟨first, following, rfl⟩
  have role : (Scan.cutAt first following).role = .openString := of_decide_eq_true isOpen
  have quote : first = '"' := by
    rcases Scan.spells_cutAt first following with isStray | spells
    · rw [isStray] at role
      cases role
    · rw [role] at spells
      generalize (Scan.cutAt first following).rest = rest at spells
      cases spells
      rfl
  rw [← Scan.flatten_pieces text]
  refine List.mem_flatten_of_mem (List.mem_map_of_mem member) ?_
  rw [← quote]
  exact List.mem_cons_self

theorem exists_opener_of_opens {token : Token} (genuine : token.Genuine)
    (opening : opens token = true) : ∃ char, IsOpener char ∧ char ∈ token.lexeme.toList := by
  simp only [opens, Bool.or_eq_true, beq_iff_eq] at opening
  rw [Token.Genuine] at genuine
  rcases opening with paren | brace
  · rw [paren] at genuine
    rw [genuine.mark_lexeme]
    exact ⟨'(', .paren, List.mem_singleton.mpr rfl⟩
  · rw [brace] at genuine
    rw [genuine.mark_lexeme]
    exact ⟨'{', .brace, List.mem_singleton.mpr rfl⟩

theorem exists_opens {tokens : List Token} (bracket : hasOpenBracket tokens = true) :
    ∃ token ∈ tokens, opens token = true := by
  apply List.countP_pos_iff.mp
  by_contra none
  have notOpen := (hasOpenBracket_eq_false_iff tokens).mpr (by omega)
  rw [bracket] at notOpen
  cases notOpen

/-- What needs more input has a quote or an opening bracket in it. -/
theorem exists_opener {text : List Char} (wanting : needsMoreInput text = true) :
    ∃ char, IsOpener char ∧ char ∈ text := by
  rw [needsMoreInput, Bool.and_eq_true, Bool.or_eq_true] at wanting
  rcases wanting.2 with inString | bracket
  · have unended := (Scan.leavesOpen_iff text).mpr ((any_isUnterminated_iff _).mp inString)
    exact ⟨'"', .quote, quote_mem_of_leavesOpen unended⟩
  · have scanned : Scan.scanText text = scan (String.ofList text) := by
      rw [scan, String.toList_ofList]
    rw [scanned] at bracket
    rcases exists_opens bracket with ⟨token, member, opening⟩
    rcases exists_opener_of_opens (Token.genuine_of_mem_scan member) opening with
      ⟨char, opener, inLexeme⟩
    have inSource := Token.mem_source_of_mem_lexeme member inLexeme
    rw [String.toList_ofList] at inSource
    exact ⟨char, opener, inSource⟩

/-! ## Names and what keeps an entry open -/

theorem IsOpener.isWhiteSpace_eq {char : Char} (opener : IsOpener char) :
    Text.isWhiteSpace char = false := by
  cases opener <;> decide

/-- No command has such a character in its name, in whichever case the name is. -/
theorem IsOpener.not_mem_name {char : Char} (opener : IsOpener char) {command : Command}
    {name : List Char} (named : command.IsNamed name) : char ∉ name := by
  intro inName
  have unchanged : Text.lowerCaseOf char = [char] := by
    cases opener <;> decide +kernel
  have inLowerCase : char ∈ (String.ofList (Text.lowerCase name)).toList := by
    rw [String.toList_ofList, Text.lowerCase, List.mem_flatMap]
    refine ⟨char, inName, ?_⟩
    rw [unchanged]
    exact List.mem_singleton.mpr rfl
  have absent : ∀ spelling ∈ command.spellings, char ∉ spelling.toList := by
    cases opener <;> cases command <;> decide
  exact absent _ named inLowerCase

/-- Nothing written behind a text that needs more input makes it a command. -/
theorem ofText?_append {begun : List Char} (wanting : needsMoreInput begun = true)
    (more : List Char) : Invocation.ofText? (begun ++ more) = none := by
  cases found : Invocation.ofText? (begun ++ more) with
  | none => rfl
  | some invocation =>
      exfalso
      rcases Invocation.exists_name found with ⟨before, name, tail, divided, white, run⟩
      have isCommand : (Invocation.ofText? (before ++ '.' :: (name ++ tail))).isSome = true := by
        rw [← divided, found]
        rfl
      rcases (Invocation.isSome_ofText?_iff white run).mp isCommand with ⟨command, named⟩
      rw [← List.cons_append, ← List.append_assoc] at divided
      rcases List.append_eq_append_iff.mp divided with ⟨missing, front, _⟩ | ⟨left, front, rest⟩
      · -- What was begun ends within the name or before it, where no opener can be.
        rcases exists_opener wanting with ⟨char, opener, inBegun⟩
        have inFront : char ∈ before ++ '.' :: name := by
          rw [front]
          exact List.mem_append_left _ inBegun
        rcases List.mem_append.mp inFront with inBefore | inWord
        · have notWhite := opener.isWhiteSpace_eq
          rw [white char inBefore] at notWhite
          cases notWhite
        · rcases List.mem_cons.mp inWord with rfl | inName
          · cases opener
          · exact opener.not_mem_name named inName
      · -- What was begun has the name, and white space behind it if anything.
        have isCommandBegun := (Invocation.isSome_ofText?_iff white (rest ▸ run).of_append).mpr
          ⟨command, named⟩
        rw [← List.cons_append, ← List.append_assoc, ← front] at isCommandBegun
        rw [needsMoreInput, ← Option.not_isSome, isCommandBegun] at wanting
        cases wanting

/-- A text that goes on from one that needs more input is not blank. -/
theorem trim_append_ne_nil {begun : List Char} (wanting : needsMoreInput begun = true)
    (more : List Char) : Text.trim (begun ++ more) ≠ [] := by
  intro blank
  rcases exists_opener wanting with ⟨char, opener, inBegun⟩
  rcases Text.exists_trim (begun ++ more) with ⟨before, after, parts, white, whiteBehind, _⟩
  rw [blank] at parts
  have isWhite := white.append whiteBehind char (parts ▸ List.mem_append_left more inBegun)
  rw [opener.isWhiteSpace_eq] at isWhite
  cases isWhite

/-- An entry that goes on from a text that needs more input is answered as source. -/
theorem answered_as_source {begun entry : List Char} (wanting : needsMoreInput begun = true)
    (front : begun <+: entry) :
    leaves entry = false ∧ ∀ settings reporter,
      Answer.ofEntry settings reporter entry =
        Answer.ofSource settings reporter (String.ofList entry) := by
  rcases front with ⟨more, rfl⟩
  have noCommand := ofText?_append wanting more
  have notBlank := List.isEmpty_eq_false_iff.mpr (trim_append_ne_nil wanting more)
  constructor
  · rw [leaves, noCommand]
  · intro settings reporter
    rw [Answer.ofEntry, notBlank, noCommand]
    rfl

/-! ## Gathering -/

/-- Lines in which nothing is taken back. -/
def WithoutBackspaces (lines : List InputLine) : Prop :=
  ∀ line ∈ lines, ∀ text ∈ line, backspace ∉ text

/-- An entry starts with what was begun, and with every text that was asked on the way to it. -/
theorem isPrefix_of_gather {begun : List Char} {lines : List InputLine} {entry : List Char}
    {rest : List InputLine} (plain : backspace ∉ begun) (plainLines : WithoutBackspaces lines)
    (found : (gather begun lines).gathered = .entry entry rest) :
    begun <+: entry ∧ (∀ attempt ∈ (gather begun lines).attempts, attempt <+: entry) ∧
      rest <:+ lines := by
  induction lines generalizing begun with
  | nil => cases found
  | cons line later ih =>
      rcases List.forall_mem_cons.mp plainLines with ⟨plainHere, plainLater⟩
      cases line with
      | none => cases found
      | some lineText =>
          have plainLine : backspace ∉ begun ++ lineText := by
            rw [List.mem_append, not_or]
            exact ⟨plain, plainHere lineText rfl⟩
          rw [gather_line plainLine] at found ⊢
          by_cases wanting :
              needsMoreInput (begun ++ (Text.Line.ofText lineText).content) = true
          · rw [if_pos wanting] at found ⊢
            rcases ih plainLine plainLater found with ⟨front, attempts, behind⟩
            have asked : begun ++ (Text.Line.ofText lineText).content <+: begun ++ lineText :=
              (List.prefix_append_right_inj begun).mpr ⟨_, Text.Line.text_ofText lineText⟩
            exact ⟨(List.prefix_append _ _).trans front,
              List.forall_mem_cons.mpr ⟨asked.trans front, attempts⟩,
              behind.trans (List.suffix_cons _ _)⟩
          · rw [if_neg wanting] at found ⊢
            cases found
            exact ⟨List.prefix_append _ _,
              List.forall_mem_singleton.mpr List.prefix_rfl, List.suffix_cons _ _⟩

/-- In a session without backspaces, what was asked on the way to an entry is what it starts with. -/
theorem isPrefix_of_mem_attempts {lines : List InputLine} (plain : WithoutBackspaces lines)
    {round : Round} (among : round ∈ (transcript lines).rounds) :
    ∀ attempt ∈ round.attempts, attempt <+: round.entry := by
  fun_induction transcript lines with
  | case1 => cases among
  | case2 => cases among
  | case3 lines gathering entry rest found leaving =>
      cases List.mem_singleton.mp among
      exact (isPrefix_of_gather List.not_mem_nil plain found).2.1
  | case4 lines gathering entry rest found staying later ih =>
      rcases isPrefix_of_gather List.not_mem_nil plain found with ⟨_, attempts, behind⟩
      rcases List.mem_cons.mp among with first | later
      · cases first
        exact attempts
      · exact ih (fun line member => plain line (behind.subset member)) later

/-- Where a text needs more input, no further line makes it a command: a session that asks for that
line answers the whole entry as source, and does not end with it. -/
theorem continued_as_source (begun : String) (wanting : needsMoreInput begun.toList = true) :
    (∀ line : String,
      Invocation.parse? (begun ++ "\n" ++ line) = none ∧
        Invocation.parse? (begun ++ "\r\n" ++ line) = none) ∧
    (∀ entry, begun.toList <+: entry →
      leaves entry = false ∧ ∀ settings reporter,
        Answer.ofEntry settings reporter entry =
          Answer.ofSource settings reporter (String.ofList entry)) ∧
    ∀ lines, WithoutBackspaces lines → ∀ round ∈ (transcript lines).rounds,
      begun.toList ∈ round.attempts → begun.toList <+: round.entry := by
  refine ⟨?_, ?_, ?_⟩
  · intro line
    have noCommand : ∀ more : String, Invocation.parse? (begun ++ more) = none := by
      intro more
      rw [Invocation.parse?, String.toList_append]
      exact ofText?_append wanting more.toList
    rw [String.append_assoc, String.append_assoc]
    exact ⟨noCommand ("\n" ++ line), noCommand ("\r\n" ++ line)⟩
  · intro entry front
    exact answered_as_source wanting front
  · intro lines plain round among asked
    exact isPrefix_of_mem_attempts plain among begun.toList asked

/-- Commands on the lines behind an open bracket. -/
theorem continued_as_source_exit :
    needsMoreInput "(".toList = true ∧
    Invocation.parse? ("(" ++ "\n" ++ ".exit") = none ∧
    ∃ round ∈ (transcriptOf "(\n.exit\r\n.load x)".toUTF8).rounds,
      "(".toList ∈ round.attempts ∧ leaves round.entry = false := by
  have wanting : needsMoreInput "(".toList = true := by decide +kernel
  have plain : WithoutBackspaces (Text.inputLines "(\n.exit\r\n.load x)".toUTF8) := by
    unfold WithoutBackspaces
    decide +kernel
  have some : ∃ round ∈ (transcriptOf "(\n.exit\r\n.load x)".toUTF8).rounds,
      "(".toList ∈ round.attempts := by decide +kernel
  rcases continued_as_source "(" wanting with ⟨noCommand, answered, starts⟩
  rcases some with ⟨round, among, asked⟩
  have source := answered round.entry (starts _ plain round among asked)
  exact ⟨wanting, (noCommand ".exit").1, round, among, asked, source.1⟩

/-- Backspaces can take back what was begun, up to the line end behind it. -/
example : (transcriptOf "(\n\x08\x08.exit".toUTF8).ending = .left := by decide +kernel

end Session
end LoxTokenizer

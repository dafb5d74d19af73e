import LoxTokenizer.Proofs.Session.Transcript
import LoxTokenizer.Proofs.Text.Lines

namespace LoxTokenizer
namespace Session

/-!
# The division of the input

A session divides its input into entries and a rest.  No character is lost on the way and none is
invented: the entries, each with the line end that was taken off it, and the rest are the input
again.  An entry is the shortest run of whole lines that needs no more input.  The rest is what no
entry could be made of, or what stands behind the command that leaves the session.

Backspaces do take characters back, so the input must be without them.
-/

theorem withoutBackspaces_of_not_mem {text : List Char} (plain : backspace ∉ text) :
    withoutBackspaces text = text := by
  apply if_neg
  rw [List.contains_iff_mem]
  exact plain

/-- Whether some lines need more of them.  The end of the last one is not looked at. -/
def needsMoreLines (lines : List Char) : Bool := needsMoreInput (Text.Line.ofText lines).content

/-! ## Gathering an entry -/

/-- What it comes to when the lines of a text are gathered behind what was begun. -/
inductive Gathers (begun text : List Char) : Gathered → Prop
  | entry (taken rest : List Char) (parts : taken ++ rest = text)
      (lines : Text.WholeLines taken text) (whole : needsMoreLines (begun ++ taken) = false)
      (shortest : ∀ fewer, Text.WholeLines fewer text → fewer.length < taken.length →
        needsMoreLines (begun ++ fewer) = true) :
      Gathers begun text
        (.entry (Text.Line.ofText (begun ++ taken)).content ((Text.cutLines rest).map some))
  | unfinished (unending : ∀ taken, Text.WholeLines taken text → needsMoreLines (begun ++ taken) = true) :
      Gathers begun text .endOfInput

/-- What one line does where nothing is taken back. -/
theorem gather_line {begun line : List Char} (plain : backspace ∉ begun ++ line)
    (rest : List InputLine) :
    gather begun (some line :: rest) =
      if needsMoreInput (begun ++ (Text.Line.ofText line).content) then
        { gather (begun ++ line) rest with
          attempts := (begun ++ (Text.Line.ofText line).content) ::
            (gather (begun ++ line) rest).attempts }
      else
        ⟨[begun ++ (Text.Line.ofText line).content],
          .entry (begun ++ (Text.Line.ofText line).content) rest⟩ := by
  have kept : withoutBackspaces (begun ++ (Text.Line.ofText line).content) =
      begun ++ (Text.Line.ofText line).content := by
    apply withoutBackspaces_of_not_mem
    intro among
    apply plain
    rcases List.mem_append.mp among with inBegun | inContent
    · exact List.mem_append_left _ inBegun
    · exact List.mem_append_right _ (Text.Line.mem_of_mem_content inContent)
  have restored : begun ++ (Text.Line.ofText line).content ++ (Text.Line.ofText line).ending.text =
      begun ++ line := by
    rw [List.append_assoc]
    exact congrArg (begun ++ ·) (Text.Line.text_ofText line)
  rw [gather, kept, restored]

/-- What one line does, told by the text with all its line ends. -/
theorem gathered_gather_line {begun line : List Char} (ready : begun.getLast? ≠ some '\r')
    (someText : line ≠ []) (plain : backspace ∉ begun ++ line) (rest : List InputLine) :
    (gather begun (some line :: rest)).gathered =
      if needsMoreLines (begun ++ line) then (gather (begun ++ line) rest).gathered
      else .entry (Text.Line.ofText (begun ++ line)).content rest := by
  have content : (Text.Line.ofText (begun ++ line)).content =
      begun ++ (Text.Line.ofText line).content := by
    rw [Text.Line.ofText_append ready someText]
  rw [gather_line plain, needsMoreLines, content]
  split <;> rfl

/-- A line in front, not enough by itself, belongs to what is gathered behind it. -/
theorem Gathers.behind_line {begun content rest : List Char} {gathered : Gathered}
    (within : '\n' ∉ content) (wanting : needsMoreLines (begun ++ (content ++ ['\n'])) = true)
    (later : Gathers (begun ++ (content ++ ['\n'])) rest gathered) :
    Gathers begun (content ++ '\n' :: rest) gathered := by
  cases later with
  | entry taken unread parts lines whole shortest =>
      rw [Text.append_line] at whole ⊢
      refine .entry (content ++ '\n' :: taken) unread ?_ (lines.behind_line content) whole ?_
      · rw [List.append_assoc, List.cons_append, parts]
      · intro fewer fewerLines shorter
        rcases Text.wholeLines_line_cases within fewerLines with first | ⟨behind, more, others⟩
        · rw [first]
          exact wanting
        · subst more
          rw [← Text.append_line]
          apply shortest behind others
          simp only [List.length_append, List.length_cons] at shorter
          omega
  | unfinished unending =>
      apply Gathers.unfinished
      intro taken takenLines
      rcases Text.wholeLines_line_cases within takenLines with first | ⟨behind, more, others⟩
      · rw [first]
        exact wanting
      · rw [more, ← Text.append_line]
        exact unending behind others

theorem gathers_gather (text begun : List Char) (ready : begun.getLast? ≠ some '\r')
    (plain : backspace ∉ begun ++ text) :
    Gathers begun text (gather begun ((Text.cutLines text).map some)).gathered := by
  induction text using Text.lines_induction generalizing begun with
  | nil =>
      apply Gathers.unfinished
      intro taken lines
      exact absurd lines (Text.not_wholeLines_nil taken)
  | unended content within someText =>
      rw [Text.cutLines_of_not_mem within someText, List.map_singleton,
        gathered_gather_line ready someText plain]
      by_cases wanting : needsMoreLines (begun ++ content) = true
      · rw [if_pos wanting]
        apply Gathers.unfinished
        intro taken lines
        rw [(Text.wholeLines_unended_iff within someText taken).mp lines]
        exact wanting
      · rw [if_neg wanting]
        have all := (Text.wholeLines_unended_iff within someText content).mpr rfl
        refine .entry content [] (List.append_nil _) all (Bool.eq_false_iff.mpr wanting) ?_
        intro fewer lines shorter
        rw [(Text.wholeLines_unended_iff within someText fewer).mp lines] at shorter
        exact absurd shorter (Nat.lt_irrefl _)
  | line content rest within ih =>
      have someText : content ++ ['\n'] ≠ [] :=
        List.append_ne_nil_of_right_ne_nil _ (List.cons_ne_nil _ _)
      rw [← Text.append_line] at plain
      have plainLine : backspace ∉ begun ++ (content ++ ['\n']) :=
        fun among => plain (List.mem_append_left _ among)
      rw [Text.cutLines_append_lineFeed within, List.map_cons,
        gathered_gather_line ready someText plainLine]
      by_cases wanting : needsMoreLines (begun ++ (content ++ ['\n'])) = true
      · rw [if_pos wanting]
        have readyLater : (begun ++ (content ++ ['\n'])).getLast? ≠ some '\r' := by
          rw [← List.append_assoc, List.getLast?_concat]
          decide
        exact (ih _ readyLater plain).behind_line within wanting
      · rw [if_neg wanting]
        refine .entry (content ++ ['\n']) rest (List.append_assoc _ _ _)
          (Text.wholeLines_line content rest) (Bool.eq_false_iff.mpr wanting) ?_
        intro fewer lines shorter
        rcases Text.wholeLines_line_cases within lines with first | ⟨behind, more, _⟩
        · rw [first] at shorter
          exact absurd shorter (Nat.lt_irrefl _)
        · rw [more] at shorter
          simp only [List.length_append, List.length_cons, List.length_nil] at shorter
          omega

/-! ## Dividing the input -/

/-- An entry with the line end that was taken off it, and the text behind.  It is the shortest run
of whole lines that needs no more input, and only where the input ends it may lack a line end. -/
structure IsEntry (entry : Text.Line) (rest : List Char) : Prop where
  lines : Text.WholeLines entry.text (entry.text ++ rest)
  parted : Text.Line.ofText entry.text = entry
  unended : entry.ending = .none → rest = []
  whole : needsMoreInput entry.content = false
  shortest : ∀ fewer, Text.WholeLines fewer (entry.text ++ rest) →
    fewer.length < entry.text.length → needsMoreInput (Text.Line.ofText fewer).content = true

/-- How a text divides into entries, the end of the session, and the rest. -/
inductive Division : List Char → List Text.Line → Ending → List Char → Prop
  | left {entry : Text.Line} {rest : List Char} (isEntry : IsEntry entry rest)
      (leaving : leaves entry.content = true) : Division (entry.text ++ rest) [entry] .left rest
  | entry {entry : Text.Line} {rest : List Char} {later : List Text.Line} {ending : Ending}
      {unread : List Char} (isEntry : IsEntry entry rest) (staying : leaves entry.content = false)
      (behind : Division rest later ending unread) :
      Division (entry.text ++ rest) (entry :: later) ending unread
  | dropped {rest : List Char} (unending : ∀ taken, Text.WholeLines taken rest →
      needsMoreInput (Text.Line.ofText taken).content = true) : Division rest [] .endOfInput rest

theorem Division.parts {text rest : List Char} {entries : List Text.Line} {ending : Ending}
    (division : Division text entries ending rest) :
    text = entries.flatMap Text.Line.text ++ rest := by
  induction division with
  | left => simp
  | entry _ _ _ ih => simp [← ih]
  | dropped => rfl

theorem IsEntry.length_le {entry other : Text.Line} {rest otherRest : List Char}
    (isEntry : IsEntry entry rest) (isOther : IsEntry other otherRest)
    (same : entry.text ++ rest = other.text ++ otherRest) : entry.text.length ≤ other.text.length := by
  apply Nat.le_of_not_lt
  intro shorter
  have lines := isOther.lines
  rw [← same] at lines
  have needsMore := isEntry.shortest other.text lines shorter
  rw [isOther.parted, isOther.whole] at needsMore
  cases needsMore

theorem IsEntry.unique {entry other : Text.Line} {rest otherRest : List Char}
    (isEntry : IsEntry entry rest) (isOther : IsEntry other otherRest)
    (same : entry.text ++ rest = other.text ++ otherRest) : entry = other ∧ rest = otherRest := by
  have lengths : entry.text.length = other.text.length :=
    Nat.le_antisymm (isEntry.length_le isOther same) (isOther.length_le isEntry same.symm)
  rcases List.append_inj same lengths with ⟨sameText, sameRest⟩
  rw [← isEntry.parted, ← isOther.parted, sameText]
  exact ⟨rfl, sameRest⟩

theorem IsEntry.not_unending {entry : Text.Line} {rest : List Char} (isEntry : IsEntry entry rest) :
    ¬ ∀ taken, Text.WholeLines taken (entry.text ++ rest) →
      needsMoreInput (Text.Line.ofText taken).content = true := by
  intro unending
  have needsMore := unending entry.text isEntry.lines
  rw [isEntry.parted, isEntry.whole] at needsMore
  cases needsMore

/-- A text divides in one way only. -/
theorem Division.unique {text rest otherRest : List Char} {entries others : List Text.Line}
    {ending otherEnding : Ending} (division : Division text entries ending rest)
    (other : Division text others otherEnding otherRest) :
    entries = others ∧ ending = otherEnding ∧ rest = otherRest := by
  induction division generalizing others with
  | @left entry rest isEntry leaving =>
      generalize same : entry.text ++ rest = whole at other
      cases other with
      | left isOther _ =>
          rcases isEntry.unique isOther same with ⟨sameEntry, sameRest⟩
          rw [sameEntry]
          exact ⟨rfl, rfl, sameRest⟩
      | entry isOther staying _ =>
          rw [(isEntry.unique isOther same).1, staying] at leaving
          cases leaving
      | dropped unending =>
          rw [← same] at unending
          exact absurd unending isEntry.not_unending
  | @entry entry rest later ending unread isEntry staying behind ih =>
      generalize same : entry.text ++ rest = whole at other
      cases other with
      | left isOther leaving =>
          rw [(isEntry.unique isOther same).1, leaving] at staying
          cases staying
      | entry isOther _ otherBehind =>
          rcases isEntry.unique isOther same with ⟨sameEntry, sameRest⟩
          rw [← sameRest] at otherBehind
          rcases ih otherBehind with ⟨sameLater, sameEnding, sameUnread⟩
          rw [sameEntry, sameLater]
          exact ⟨rfl, sameEnding, sameUnread⟩
      | dropped unending =>
          rw [← same] at unending
          exact absurd unending isEntry.not_unending
  | @dropped rest unending =>
      cases other with
      | left isOther _ => exact absurd unending isOther.not_unending
      | entry isOther _ _ => exact absurd unending isOther.not_unending
      | dropped _ => exact ⟨rfl, rfl, rfl⟩

theorem isEntry_ofText {taken rest : List Char} (lines : Text.WholeLines taken (taken ++ rest))
    (whole : needsMoreLines taken = false)
    (shortest : ∀ fewer, Text.WholeLines fewer (taken ++ rest) → fewer.length < taken.length →
      needsMoreLines fewer = true) :
    IsEntry (Text.Line.ofText taken) rest := by
  have same := Text.Line.text_ofText taken
  constructor
  · rwa [same]
  · rw [same]
  · intro noEnd
    rcases lines.ended with ended | all
    · exact absurd noEnd (Text.Line.ending_ofText_ne_none ended)
    · exact List.append_right_eq_self.mp all.symm
  · exact whole
  · rw [same]
    exact shortest

theorem gathers_gather_lines {text : List Char} {lines : List InputLine} {gathered : Gathered}
    (areLines : lines = (Text.cutLines text).map some) (plain : backspace ∉ text)
    (found : (gather [] lines).gathered = gathered) : Gathers [] text gathered := by
  rw [← found, areLines]
  exact gathers_gather text [] (by decide) plain

/-- What a session makes of the lines of a text is a division of that text. -/
theorem exists_division (lines : List InputLine) :
    ∀ text, lines = (Text.cutLines text).map some → backspace ∉ text →
      ∃ entries rest, Division text entries (transcript lines).ending rest ∧
        (transcript lines).rounds.map Round.entry = entries.map Text.Line.content ∧
        (transcript lines).unread = (Text.cutLines rest).map some := by
  fun_induction transcript lines with
  | case1 lines gathering ended =>
      intro text areLines plain
      cases gathers_gather_lines areLines plain ended with
      | unfinished unending => exact ⟨[], text, .dropped unending, rfl, areLines⟩
  | case2 lines gathering undecodable =>
      intro text areLines plain
      cases gathers_gather_lines areLines plain undecodable
  | case3 lines gathering entry rest found leaving =>
      intro text areLines plain
      cases gathers_gather_lines areLines plain found with
      | entry taken unread parts wholeLines whole shortest =>
          subst parts
          have isEntry := isEntry_ofText wholeLines whole shortest
          have divided := Division.left isEntry leaving
          rw [Text.Line.text_ofText] at divided
          exact ⟨[Text.Line.ofText taken], unread, divided, rfl, rfl⟩
  | case4 lines gathering entry rest found staying later ih =>
      intro text areLines plain
      cases gathers_gather_lines areLines plain found with
      | entry taken unread parts wholeLines whole shortest =>
          subst parts
          have plainBehind : backspace ∉ unread := fun among => plain (List.mem_append_right _ among)
          rcases ih unread rfl plainBehind with ⟨entries, left, behind, sameEntries, sameUnread⟩
          have isEntry := isEntry_ofText wholeLines whole shortest
          have divided := Division.entry isEntry (Bool.eq_false_iff.mpr staying) behind
          rw [Text.Line.text_ofText] at divided
          exact ⟨Text.Line.ofText taken :: entries, left, divided,
            congrArg (List.cons _) sameEntries, sameUnread⟩

/-- A session over a text without backspaces writes what the entries of the text bring forth, as its
one division has them.  It keeps every character: the entries with their line ends and the rest are
the text. -/
theorem run_divides_input (input : String) (plain : backspace ∉ input.toList) :
    (∀ format logger files dataPath,
      run format logger files dataPath input.toUTF8 =
        .err (logger.writeAll (History.prepare files dataPath).1) ++ .out banner ++
          (transcriptOf input.toUTF8).output ⟨format, logger, (History.prepare files dataPath).2⟩ ++
          .out "\n") ∧
      ∃ entries rest,
        input.toList = entries.flatMap Text.Line.text ++ rest ∧
        (∀ others ending left, Division input.toList others ending left ↔
          others = entries ∧ ending = (transcriptOf input.toUTF8).ending ∧ left = rest) ∧
        (transcriptOf input.toUTF8).rounds.map Round.entry = entries.map Text.Line.content ∧
        (transcriptOf input.toUTF8).unread = (Text.cutLines rest).map some := by
  constructor
  · intro format logger files dataPath
    exact run_eq_output format logger files dataPath input.toUTF8
  · rcases exists_division _ input.toList (Text.inputLines_toUTF8 input) plain with
      ⟨entries, rest, division, sameEntries, sameUnread⟩
    refine ⟨entries, rest, division.parts, ?_, sameEntries, sameUnread⟩
    intro others ending left
    constructor
    · intro other
      exact other.unique division
    · rintro ⟨rfl, rfl, rfl⟩
      exact division

/-- A line end within an entry, and text behind the command that leaves. -/
theorem run_divides_input_returns :
    backspace ∉ "(\r\n1)\r\n.exit\nnot read".toList ∧
      ∃ entries rest,
        "(\r\n1)\r\n.exit\nnot read".toList = entries.flatMap Text.Line.text ++ rest ∧
        (∀ others ending left, Division "(\r\n1)\r\n.exit\nnot read".toList others ending left ↔
          others = entries ∧
            ending = (transcriptOf "(\r\n1)\r\n.exit\nnot read".toUTF8).ending ∧ left = rest) ∧
        (transcriptOf "(\r\n1)\r\n.exit\nnot read".toUTF8).rounds.map Round.entry =
          entries.map Text.Line.content ∧
        (transcriptOf "(\r\n1)\r\n.exit\nnot read".toUTF8).unread =
          (Text.cutLines rest).map some := by
  have plain : backspace ∉ "(\r\n1)\r\n.exit\nnot read".toList := by decide
  exact ⟨plain, (run_divides_input _ plain).2⟩

example : (transcriptOf "(\r\n1)\r\n.exit\nnot read".toUTF8).rounds.map Round.entry =
    ["(\r\n1)".toList, ".exit".toList] := by
  decide +kernel

end Session
end LoxTokenizer

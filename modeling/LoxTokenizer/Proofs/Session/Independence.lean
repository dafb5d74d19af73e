import LoxTokenizer.Proofs.Program.Modes
import LoxTokenizer.Proofs.Session.Transcript

namespace LoxTokenizer

open Session

/-!
# Entries do not taint each other

One reporter goes through a whole session, and after a faulty entry it is not the one that it was
before.  But nothing that an entry contributes can tell: whatever two sessions went through, when they
come to the same entry they say the same of it, in their text, in their error lines and in what they
count.  So what a session writes is put together from what each entry says by itself.

Nor does what came before matter to the reading: behind complete entries, lines are gathered as if they
were the first.
-/

namespace Session

/-! ## Reading behind a history -/

/-- Lines that make up complete entries, none of which leaves the session. -/
structure IsHistory (lines : List InputLine) : Prop where
  stays : (transcript lines).ending = .endOfInput
  complete : (transcript lines).unread = []

theorem gather_append (begun : List Char) {lines : List InputLine} {entry : List Char}
    {rest : List InputLine} (found : (gather begun lines).gathered = .entry entry rest)
    (more : List InputLine) :
    gather begun (lines ++ more) = ⟨(gather begun lines).attempts, .entry entry (rest ++ more)⟩ := by
  induction lines generalizing begun with
  | nil => cases found
  | cons line later ih =>
      cases line with
      | none => cases found
      | some lineText =>
          rw [List.cons_append]
          unfold gather at found ⊢
          by_cases unfinished : needsMoreInput
              (withoutBackspaces (begun ++ (Text.Line.ofText lineText).content)) = true
          · simp only [if_pos unfinished] at found ⊢
            rw [ih _ found]
          · simp only [if_neg unfinished] at found ⊢
            cases found
            rfl

theorem transcript_append {earlier : List InputLine} (history : IsHistory earlier)
    (later : List InputLine) :
    transcript (earlier ++ later) =
      { transcript later with
        rounds := (transcript earlier).rounds ++ (transcript later).rounds } := by
  rcases history with ⟨stays, complete⟩
  fun_induction transcript earlier with
  | case1 lines gathering ended =>
      -- What is unread when the input ends is an entry that was begun, and there is none.
      have none : lines = [] := complete
      rw [none]
      rfl
  | case2 lines gathering undecodable => cases stays
  | case3 lines gathering entry rest found leaving => cases stays
  | case4 lines gathering entry rest found staying behind ih =>
      rw [transcript, gather_append [] found later]
      simp only [if_neg staying, ih stays complete]
      rfl

/-! ## Entry by entry -/

def Transcript.entries (session : Transcript) : List (List Char) := session.rounds.map Round.entry

/-- What the entries of a session contribute, from the first one on. -/
def Transcript.contributions (settings : Settings) (session : Transcript) : List Contribution :=
  contributionsFrom settings freshReporter session.rounds

theorem Transcript.contributions_eq (settings : Settings) (session : Transcript) :
    session.contributions settings = session.entries.map settings.contribution := by
  rw [contributions, contributionsFrom_eq settings rfl, entries, List.map_map]
  rfl

theorem Transcript.getElem?_contributions (settings : Settings) {session : Transcript}
    {index : Nat} {entry : List Char} (received : session.entries[index]? = some entry) :
    (session.contributions settings)[index]? = some (settings.contribution entry) := by
  rw [contributions_eq, List.getElem?_map, received]
  rfl

theorem Round.stdout_output (settings : Settings) (round : Round) :
    (round.output settings).stdout = (settings.contribution round.entry).stdout :=
  String.empty_append

theorem Round.stderr_output {settings : Settings} (quiet : settings.logger.IsQuiet) (round : Round) :
    (round.output settings).stderr = String.join (settings.contribution round.entry).lines := by
  have said := quiet.writeMessages_eq (isModest_contribution settings round.entry)
  rw [output, gatheringMessages_of_isQuiet quiet]
  exact (String.empty_append).trans said

theorem Transcript.written_contributions (settings : Settings) (session : Transcript) :
    session.written settings (session.contributions settings) =
      ⟨String.join (session.rounds.map fun round => (round.output settings).stdout),
        String.join (session.rounds.map fun round => (round.output settings).stderr)⟩ ++
        session.closing settings := by
  rw [contributions, contributionsFrom_eq settings rfl, written_eq_output, Transcript.output]
  exact Output.foldr_append _ _ _

/-- Whatever is logged, the text of a session is that of its entries one after another. -/
theorem Transcript.stdout_written (settings : Settings) (session : Transcript) :
    (session.written settings (session.contributions settings)).stdout =
      String.join ((session.contributions settings).map Contribution.stdout) ++
        (session.closing settings).stdout := by
  rw [written_contributions, contributions_eq, entries, List.map_map, List.map_map]
  simp only [Round.stdout_output]
  rfl

theorem Transcript.stderr_written {settings : Settings} (quiet : settings.logger.IsQuiet)
    (session : Transcript) :
    (session.written settings (session.contributions settings)).stderr =
      String.join ((session.contributions settings).map fun contribution =>
        String.join contribution.lines) ++ (session.closing settings).stderr := by
  rw [written_contributions, contributions_eq, entries, List.map_map, List.map_map]
  simp only [Round.stderr_output quiet]
  rfl

end Session

namespace Program

/-- What a session of a run knows. -/
def sessionSettings (options : CommandLine.Options) (surroundings : Surroundings) : Settings where
  format := options.format
  logger := logger options surroundings
  files := (History.prepare surroundings.files (dataPath surroundings)).2

/-- What a session says before its first entry. -/
def opening (options : CommandLine.Options) (surroundings : Surroundings) : Output :=
  .err ((logger options surroundings).writeAll
    (History.prepare surroundings.files (dataPath surroundings)).1) ++ .out banner

/-- An outcome made up of what each entry of a session contributes by itself. -/
structure EntryByEntry (outcome : Outcome) (opening : Output) (settings : Settings)
    (session : Transcript) : Prop where
  exitCode : outcome.exitCode = 0
  output : outcome.output =
    opening ++ session.written settings (session.contributions settings) ++ .out "\n"
  stdout : outcome.output.stdout =
    opening.stdout ++ (String.join ((session.contributions settings).map Contribution.stdout) ++
      (session.closing settings).stdout) ++ "\n"
  /-- Without logging, the lines of the entries are all that is said of them. -/
  stderr : settings.logger.IsQuiet → outcome.output.stderr =
    opening.stderr ++ (String.join ((session.contributions settings).map fun contribution =>
      String.join contribution.lines) ++ (session.closing settings).stderr)
  alone : session.contributions settings = session.entries.map settings.contribution

theorem Understood.entryByEntry {arguments : List String} {surroundings : Surroundings}
    {options : CommandLine.Options}
    (understood : Understood arguments surroundings options .session) :
    EntryByEntry (run arguments surroundings) (opening options surroundings)
      (sessionSettings options surroundings) (transcriptOf surroundings.input) := by
  have output : (run arguments surroundings).output =
      opening options surroundings ++
        (transcriptOf surroundings.input).written (sessionSettings options surroundings)
          ((transcriptOf surroundings.input).contributions (sessionSettings options surroundings)) ++
        .out "\n" := by
    -- Here the reporter is the one that is handed on, not yet a fresh one for each entry.
    rw [understood.run_session, Transcript.contributions, transcriptOf, ← answerLines_eq_written]
    rfl
  constructor
  · rw [understood.run_session]
  · exact output
  · rw [output, ← Transcript.stdout_written]
    rfl
  · intro quiet
    rw [output, ← Transcript.stderr_written quiet]
    exact String.append_empty
  · exact Transcript.contributions_eq _ _

/-- Two sessions with one format that receive the same entry, whatever came before it, have the same
contribution for it, provided that they find the same in a file that it loads.  If it has a source
scanned, that contribution is known from the source.  All that a session writes is such contributions,
behind its opening and in front of its ending, and it succeeds. -/
theorem sessions_answer_alike {arguments others : List String} {surroundings elsewhere : Surroundings}
    {options otherOptions : CommandLine.Options}
    (understood : Understood arguments surroundings options .session)
    (alsoUnderstood : Understood others elsewhere otherOptions .session)
    (sameFormat : options.format = otherOptions.format) :
    EntryByEntry (run arguments surroundings) (opening options surroundings)
        (sessionSettings options surroundings) (transcriptOf surroundings.input) ∧
      EntryByEntry (run others elsewhere) (opening otherOptions elsewhere)
        (sessionSettings otherOptions elsewhere) (transcriptOf elsewhere.input) ∧
      (∀ (index place : Nat) (entry : List Char),
        (transcriptOf surroundings.input).entries[index]? = some entry →
        (transcriptOf elsewhere.input).entries[place]? = some entry →
        (∀ path, Invocation.ofText? entry = some ⟨.load, some path⟩ →
          (sessionSettings options surroundings).files.readText path =
            (sessionSettings otherOptions elsewhere).files.readText path) →
        ∃ contribution,
          ((transcriptOf surroundings.input).contributions
            (sessionSettings options surroundings))[index]? = some contribution ∧
          ((transcriptOf elsewhere.input).contributions
            (sessionSettings otherOptions elsewhere))[place]? = some contribution ∧
          ∀ source, Scans (sessionSettings options surroundings).files entry source →
            contribution = scanContribution options.format none source) ∧
      ∀ earlier later, IsHistory earlier →
        (transcript (earlier ++ later)).entries =
          (transcript earlier).entries ++ (transcript later).entries := by
  refine ⟨understood.entryByEntry, alsoUnderstood.entryByEntry, ?_, ?_⟩
  · intro index place entry received alsoReceived sameFile
    have alike : (sessionSettings options surroundings).contribution entry =
        (sessionSettings otherOptions elsewhere).contribution entry :=
      Answer.contribution_ofEntry_congr sameFormat rfl entry sameFile
    refine ⟨(sessionSettings options surroundings).contribution entry, ?_, ?_, ?_⟩
    · exact Transcript.getElem?_contributions _ received
    · rw [alike]
      exact Transcript.getElem?_contributions _ alsoReceived
    · intro source scans
      exact contribution_of_scans (sessionSettings options surroundings) scans
  · intro earlier later history
    rw [transcript_append history, Transcript.entries, List.map_append]
    rfl

/-- An entry without errors, behind a faulty entry and as the first one. -/
theorem sessions_answer_alike_faulty :
    Understood ["-i"] (.bare ⟨.empty, []⟩ "@\n1\n".toUTF8) ⟨[], none, true, .text, false⟩ .session ∧
      Understood ["-i", "-v"] (.bare ⟨.empty, []⟩ "1\n".toUTF8)
        ⟨[], none, true, .text, true⟩ .session ∧
      (transcriptOf "@\n1\n".toUTF8).entries[1]? = some ['1'] ∧
      (transcriptOf "1\n".toUTF8).entries[0]? = some ['1'] ∧
      (∃ contribution,
        ((transcriptOf "@\n1\n".toUTF8).contributions
          (sessionSettings ⟨[], none, true, .text, false⟩
            (.bare ⟨.empty, []⟩ "@\n1\n".toUTF8)))[1]? = some contribution ∧
        ((transcriptOf "1\n".toUTF8).contributions
          (sessionSettings ⟨[], none, true, .text, true⟩
            (.bare ⟨.empty, []⟩ "1\n".toUTF8)))[0]? = some contribution ∧
        contribution = scanContribution .text none "1") ∧
      IsHistory [some ['@', '\n']] ∧
      (transcript ([some ['@', '\n']] ++ [some ['1', '\n']])).entries =
        (transcript [some ['@', '\n']]).entries ++ (transcript [some ['1', '\n']]).entries := by
  have understood : Understood ["-i"] (.bare ⟨.empty, []⟩ "@\n1\n".toUTF8)
      ⟨[], none, true, .text, false⟩ .session := ⟨rfl, rfl⟩
  have alsoUnderstood : Understood ["-i", "-v"] (.bare ⟨.empty, []⟩ "1\n".toUTF8)
      ⟨[], none, true, .text, true⟩ .session := ⟨rfl, rfl⟩
  have noCommand : Invocation.ofText? ['1'] = none := by decide +kernel
  have scans : ∀ files, Scans files ['1'] "1" := fun files =>
    .typed (by decide +kernel) noCommand
  have received : (transcriptOf "@\n1\n".toUTF8).entries[1]? = some ['1'] := by decide +kernel
  have alsoReceived : (transcriptOf "1\n".toUTF8).entries[0]? = some ['1'] := by decide +kernel
  have history : IsHistory [some ['@', '\n']] := ⟨by decide +kernel, by decide +kernel⟩
  have loadsNothing : ∀ path, Invocation.ofText? ['1'] ≠ some ⟨.load, some path⟩ := by
    intro path loads
    rw [noCommand] at loads
    cases loads
  rcases sessions_answer_alike understood alsoUnderstood rfl with ⟨_, _, alike, behind⟩
  rcases alike 1 0 ['1'] received alsoReceived (fun path loads => absurd loads (loadsNothing path))
    with ⟨contribution, first, second, known⟩
  exact ⟨understood, alsoUnderstood, received, alsoReceived,
    ⟨contribution, first, second, known "1" (scans _)⟩, history, behind _ _ history⟩

end Program
end LoxTokenizer

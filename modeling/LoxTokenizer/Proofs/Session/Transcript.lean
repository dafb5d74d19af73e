import LoxTokenizer.Proofs.Session.Answer

namespace LoxTokenizer
namespace Session

/-!
# The transcript of a session

A session reads entries and answers them one by one.  Its transcript says which entries those are and
how the session ends, apart from everything that is written; what is written can then be read off it,
entry by entry.  So whoever asks which texts a session takes in, or what an entry contributes, need not
look at the other.

Two things are shown of what is written, one after the other.  First it is the contributions of the
entries, each answered with the reporter that the entries before it have left behind.  Then these are
what the entries bring forth when each of them is answered as the first.

The command that leaves the session is an entry like the others.  It brings forth nothing, and it is
the last one.
-/

/-- An entry, and the texts that were asked on the way to it whether they are one. -/
structure Round where
  attempts : List (List Char)
  entry : List Char

inductive Ending where
  | left
  | endOfInput
  | undecodable
  deriving DecidableEq

structure Transcript where
  rounds : List Round
  ending : Ending
  /-- What was asked behind the last entry, where no text was one any more. -/
  attempts : List (List Char)
  /-- The lines that belong to no entry. -/
  unread : List InputLine

def transcript (lines : List InputLine) : Transcript :=
  let gathering := gather [] lines
  match _ : gathering.gathered with
  | .endOfInput => ⟨[], .endOfInput, gathering.attempts, lines⟩
  | .undecodable => ⟨[], .undecodable, gathering.attempts, lines⟩
  | .entry entry rest =>
      if leaves entry then ⟨[⟨gathering.attempts, entry⟩], .left, [], rest⟩
      else
        let later := transcript rest
        { later with rounds := ⟨gathering.attempts, entry⟩ :: later.rounds }
termination_by lines.length
decreasing_by exact length_rest_gather_lt [] lines ‹_›

def transcriptOf (input : ByteArray) : Transcript := transcript (Text.inputLines input)

/-! ## What is written -/

/-- What an entry contributes, behind what was logged while it was gathered. -/
def Round.written (settings : Settings) (round : Round) (contribution : Contribution) : Output :=
  .err (settings.gatheringMessages round.attempts) ++ contribution.output settings.logger

def Round.output (settings : Settings) (round : Round) : Output :=
  .err (settings.gatheringMessages round.attempts) ++ settings.answer round.entry

/-- What is written behind the last entry. -/
def Transcript.closing (settings : Settings) (session : Transcript) : Output :=
  match session.ending with
  | .left => .empty
  | .endOfInput =>
      .err (settings.gatheringMessages session.attempts) ++ .out (dimmed "^D" ++ "\n")
  | .undecodable =>
      .err (settings.gatheringMessages session.attempts) ++ .err undecodableComplaint

def Transcript.output (settings : Settings) (session : Transcript) : Output :=
  session.rounds.foldr (fun round later => round.output settings ++ later)
    (session.closing settings)

/-- What is written when the entries make some contributions. -/
def Transcript.written (settings : Settings) (session : Transcript)
    (contributions : List Contribution) : Output :=
  (session.rounds.zip contributions).foldr
    (fun (round, contribution) later => round.written settings contribution ++ later)
    (session.closing settings)

/-- What the entries of a session contribute.  The reporter that an answer leaves behind is the one
that the next entry is answered with. -/
def contributionsFrom (settings : Settings) (reporter : ConsoleReporter) :
    List Round → List Contribution
  | [] => []
  | round :: later =>
      let answer := Answer.ofEntry settings reporter round.entry
      answer.contribution :: contributionsFrom settings answer.reporter later

/-! ## One reporter, handed on -/

theorem answerLines_eq (settings : Settings) (reporter : ConsoleReporter)
    (lines : List InputLine) :
    answerLines settings reporter lines =
      match (gather [] lines).gathered with
      | .endOfInput =>
          .err (settings.gatheringMessages (gather [] lines).attempts) ++
            .out (dimmed "^D" ++ "\n")
      | .undecodable =>
          .err (settings.gatheringMessages (gather [] lines).attempts) ++ .err undecodableComplaint
      | .entry entry rest =>
          if leaves entry then .err (settings.gatheringMessages (gather [] lines).attempts)
          else
            .err (settings.gatheringMessages (gather [] lines).attempts) ++
              ((Answer.ofEntry settings reporter entry).contribution.output settings.logger ++
                answerLines settings (Answer.ofEntry settings reporter entry).reporter rest) := by
  rw [answerLines]
  split
  · rename_i ended
    rw [ended]
  · rename_i undecodable
    rw [undecodable]
  · rename_i entry rest found
    rw [found]

/-- What the lines of a session bring forth is what its entries contribute one after another. -/
theorem answerLines_eq_written (settings : Settings) (reporter : ConsoleReporter)
    (lines : List InputLine) :
    answerLines settings reporter lines =
      (transcript lines).written settings
        (contributionsFrom settings reporter (transcript lines).rounds) := by
  fun_induction transcript lines generalizing reporter with
  | case1 lines gathering ended =>
      rw [answerLines_eq, ended]
      rfl
  | case2 lines gathering undecodable =>
      rw [answerLines_eq, undecodable]
      rfl
  | case3 lines gathering entry rest found leaving =>
      have nothing : Round.written settings ⟨gathering.attempts, entry⟩
          (Answer.ofEntry settings reporter entry).contribution ++ .empty =
            .err (settings.gatheringMessages gathering.attempts) := by
        rw [Round.written, ofEntry_of_leaves settings reporter leaving]
        exact (Output.append_empty _).trans (Output.append_empty _)
      rw [answerLines_eq, found]
      exact (if_pos leaving).trans nothing.symm
  | case4 lines gathering entry rest found staying later ih =>
      rw [answerLines_eq, found]
      refine (if_neg staying).trans ?_
      rw [ih, ← Output.append_assoc]
      rfl

/-- With a reporter that has no source name, every entry contributes what it brings forth by itself.
The name is all that has to be carried from entry to entry. -/
theorem contributionsFrom_eq (settings : Settings) {reporter : ConsoleReporter}
    (unnamed : reporter.sourceName = none) (rounds : List Round) :
    contributionsFrom settings reporter rounds =
      rounds.map fun round => settings.contribution round.entry := by
  induction rounds generalizing reporter with
  | nil => rfl
  | cons round later ih =>
      have stillUnnamed := (Answer.sourceName_ofEntry settings reporter round.entry).trans unnamed
      rw [contributionsFrom, List.map_cons, contribution_ofEntry settings unnamed, ih stillUnnamed]

/-! ## Each entry by itself -/

theorem Transcript.written_eq_output (settings : Settings) (session : Transcript) :
    session.written settings (session.rounds.map fun round => settings.contribution round.entry) =
      session.output settings := by
  rw [written, ← List.map_prod_left_eq_zip, List.foldr_map]
  rfl

/-- What the lines of a session bring forth can be read off its transcript. -/
theorem answerLines_eq_output (settings : Settings) (lines : List InputLine) :
    answerLines settings freshReporter lines = (transcript lines).output settings := by
  rw [answerLines_eq_written, contributionsFrom_eq settings rfl, Transcript.written_eq_output]

theorem run_eq_output (format : DumpFormat) (logger : Log.Logger) (files : FileTree)
    (dataPath : String) (input : ByteArray) :
    run format logger files dataPath input =
      .err (logger.writeAll (History.prepare files dataPath).1) ++ .out banner ++
        (transcriptOf input).output ⟨format, logger, (History.prepare files dataPath).2⟩ ++
        .out "\n" := by
  rw [transcriptOf, ← answerLines_eq_output]
  rfl

end Session
end LoxTokenizer

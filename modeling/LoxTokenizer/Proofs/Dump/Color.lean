import LoxTokenizer.Proofs.Program.Sources
import LoxTokenizer.Proofs.Scan.Genuine
import LoxTokenizer.Proofs.Session.Answer
import LoxTokenizer.Proofs.Style.Plain
import LoxTokenizer.Proofs.Token.Label

namespace LoxTokenizer

open Style (Clean Shows)

/-!
# Dumps in colour

A session lists tokens in colour, one ended line after another; a run over a source joins plain lines
and ends the last.  Without its control sequences the first is the second, provided that the source
has no escape characters of its own.  What a dump shows beside parts of the source are labels, words
and numbers, and there are no escape characters in these.
-/

/-! ## What is shown -/

namespace Token

theorem clean_label (tag : Tag) : Clean tag.label.toList := by
  intro member
  exact absurd (tag.label_parts _ member) (by decide)

theorem shows_coloredLabel (tag : Tag) : Shows tag.coloredLabel tag.label := by
  have label := Shows.clean (clean_label tag)
  cases tag with
  | keyword word => exact (label.apply _).apply _
  | _ => exact label.apply _

/-- A line in colour shows as the line without. -/
theorem shows_coloredDisplay {token : Token} (genuine : token.Genuine)
    (clean : Clean token.lexeme.toList) : Shows token.coloredDisplay token.display := by
  have space : Shows " " " " := .clean (by decide)
  have front := (((shows_coloredLabel token.kind.tag).append space).append (.clean clean)).append space
  apply front.append
  have literal := genuine.not_mem_literal (by decide) (by decide) clean
  cases carried : token.literal? with
  | none => exact Shows.apply _ (.clean (by decide))
  | some value => exact Shows.apply _ (.clean (literal value carried))

end Token

namespace Dump

theorem shows_endLines {tokens : List Token}
    (shows : ∀ token ∈ tokens, Shows token.coloredDisplay token.display) :
    Shows (endLines (tokens.map Token.coloredDisplay)) (endLines (tokens.map Token.display)) := by
  induction tokens with
  | nil => exact .clean (by decide)
  | cons token tokens ih =>
      rw [List.forall_mem_cons] at shows
      have lineEnd : Shows "\n" "\n" := .clean (by decide)
      exact (shows.1.append lineEnd).append (ih shows.2)

/-- Joined and then ended, the lines of a scan are those that are ended one by one. -/
theorem render_scan_ended (source : String) :
    render (scan source).tokens .text ++ "\n" =
      endLines ((scan source).tokens.map Token.display) := by
  cases tokens : (scan source).tokens with
  | nil => simp [scan, Scan.scanText_eq] at tokens
  | cons token rest => exact joinLines_append_lineFeed _ _

end Dump

namespace Session

/-- A session dumps a source as a run over it does: as JSON to the byte, and as text when the control
sequences of its colours are deleted, provided that the source has no escape characters. -/
theorem answer_dumps_as_run (settings : Settings) (reporter : ConsoleReporter) (logger : Log.Logger)
    (source : String) :
    (Answer.ofSource { settings with format := .json } reporter source).contribution.stdout =
        (Program.runSource logger .json source).output.stdout ∧
      ('\x1b' ∉ source.toList →
        Style.plain
            (Answer.ofSource { settings with format := .text } reporter source).contribution.stdout.toList =
          (Program.runSource logger .text source).output.stdout.toList) := by
  rw [Answer.contribution_ofSource, Answer.contribution_ofSource,
    (Program.shows_runSource logger .json source).stdout,
    (Program.shows_runSource logger .text source).stdout]
  refine ⟨rfl, ?_⟩
  intro clean
  have shows : ∀ token ∈ (scan source).tokens, Shows token.coloredDisplay token.display := by
    intro token member
    apply Token.shows_coloredDisplay (Token.genuine_of_mem_scan member)
    exact fun inside => clean (Token.mem_source_of_mem_lexeme member inside)
  rw [Dump.render_scan_ended]
  exact (Dump.shows_endLines shows).plain_eq

/-- The two dumps of a string with a line break in it. -/
theorem answer_dumps_as_run_string :
    '\x1b' ∉ "print \"a\nEOF  null\";".toList ∧
      Style.plain (Answer.ofSource ⟨.text, ⟨.warnings, ""⟩, ⟨.empty, []⟩⟩ (.ofSource none)
          "print \"a\nEOF  null\";").contribution.stdout.toList =
        (Program.runSource ⟨.warnings, ""⟩ .text "print \"a\nEOF  null\";").output.stdout.toList :=
  ⟨by decide, (answer_dumps_as_run ⟨.text, ⟨.warnings, ""⟩, ⟨.empty, []⟩⟩ (.ofSource none) ⟨.warnings, ""⟩
    "print \"a\nEOF  null\";").2 (by decide)⟩

end Session
end LoxTokenizer

import LoxTokenizer.Scan.Basic
import LoxTokenizer.Session.Command
import LoxTokenizer.Session.Erasure
import LoxTokenizer.Text.Lines

namespace LoxTokenizer
namespace Session

/-!
Entries of a session.  An entry is one line or several: lines are gathered for as long as the text
so far has an open string or an open bracket.  The line ends between them are kept as they were;
the last one does not belong to the entry.
-/

/-- How far a token opens brackets (one) or closes them (minus one). -/
def bracketBalance (token : Token) : Int :=
  match token.kind with
  | .punctuator mark => if mark.isOpening then 1 else if mark.isClosing then -1 else 0
  | _ => 0

/-- Whether source text ends with more brackets open than closed. -/
def hasOpenBracket (tokens : List Token) : Bool :=
  0 < tokens.foldl (fun balance token => balance + bracketBalance token) 0

/-- Whether a text is not yet a whole entry.  A command always is one; source text is one when no
string is open at its end and no more brackets are opened than closed. -/
def needsMoreInput (text : List Char) : Bool :=
  (Invocation.ofText? text).isNone &&
    let result := Scan.scanText text
    result.errors.any ScanError.isUnterminated || hasOpenBracket result.tokens

/-- What a scan for completeness tells about itself; commands are not scanned. -/
def completenessEvents (text : List Char) : List ScanEvent :=
  if (Invocation.ofText? text).isSome then [] else (Scan.scanText text).events

/-- A line of the input with its end, or none if it is not text. -/
abbrev InputLine := Option (List Char)

/-- How the gathering of an entry ends. -/
inductive Gathered where
  /-- An entry, and the lines behind it. -/
  | entry (text : List Char) (rest : List InputLine)
  /-- The input ended; an entry begun by then is dropped. -/
  | endOfInput
  | undecodable
  deriving DecidableEq

/-- A gathering: every text that was asked whether it is an entry, and how it ended. -/
structure Gathering where
  attempts : List (List Char)
  gathered : Gathered

/-- Gathers lines behind a text that needs more of them, or behind nothing. -/
def gather (begun : List Char) : List InputLine → Gathering
  | [] => ⟨[], .endOfInput⟩
  | none :: _ => ⟨[], .undecodable⟩
  | some lineText :: rest =>
      let line := Text.Line.ofText lineText
      let text := withoutBackspaces (begun ++ line.content)
      if needsMoreInput text then
        let later := gather (text ++ line.ending.text) rest
        { later with attempts := text :: later.attempts }
      else ⟨[text], .entry text rest⟩

/-- An entry takes at least one line. -/
theorem length_rest_gather_lt (begun : List Char) (lines : List InputLine) {text : List Char}
    {rest : List InputLine} (found : (gather begun lines).gathered = .entry text rest) :
    rest.length < lines.length := by
  induction lines generalizing begun with
  | nil => simp [gather] at found
  | cons line later ih =>
      cases line with
      | none => simp [gather] at found
      | some lineText =>
          simp only [gather] at found
          split at found
          · exact Nat.lt_succ_of_lt (ih _ found)
          · cases found
            exact Nat.lt_succ_self _

/-- An entry never needs more input: what is gathered is whole. -/
theorem needsMoreInput_of_gather (begun : List Char) (lines : List InputLine) {text : List Char}
    {rest : List InputLine} (found : (gather begun lines).gathered = .entry text rest) :
    needsMoreInput text = false := by
  induction lines generalizing begun with
  | nil => simp [gather] at found
  | cons line later ih =>
      cases line with
      | none => simp [gather] at found
      | some lineText =>
          simp only [gather] at found
          split at found
          · exact ih _ found
          · rename_i whole
            cases found
            simpa using whole

end Session
end LoxTokenizer

import LoxTokenizer.Proofs.Session.Transcript

namespace LoxTokenizer
namespace Session

/-!
# Closed source

Three parts of a session look at an entry: the test whether it is whole, the test whether it is a
command, and the scan that shows its tokens.  The first lets a command pass without a look at its
brackets and quotes.  That does no harm, because the second sees the same command in the same text;
so what is left for the scan has no open string and no open bracket.
-/

/-! ## Counting brackets -/

def opens (token : Token) : Bool :=
  token.kind == .punctuator .leftParen || token.kind == .punctuator .leftBrace

def closes (token : Token) : Bool :=
  token.kind == .punctuator .rightParen || token.kind == .punctuator .rightBrace

/-- No string is open at the end of the source, and no more brackets are opened than closed. -/
structure IsClosed (result : ScanResult) : Prop where
  strings : ∀ line, ScanError.unterminatedString line ∉ result.errors
  brackets : result.tokens.countP opens ≤ result.tokens.countP closes

theorem bracketBalance_eq (token : Token) :
    bracketBalance token = (if opens token then 1 else 0) - (if closes token then 1 else 0) := by
  rcases token with ⟨kind, lexeme, line, span⟩
  cases kind with
  | punctuator mark => cases mark <;> rfl
  | _ => rfl

/-- The balance is what is opened less what is closed. -/
theorem foldl_bracketBalance (start : Int) (tokens : List Token) :
    tokens.foldl (fun balance token => balance + bracketBalance token) start =
      start + tokens.countP opens - tokens.countP closes := by
  induction tokens generalizing start with
  | nil => simp
  | cons token later ih =>
      rw [List.foldl_cons, ih, bracketBalance_eq, List.countP_cons, List.countP_cons]
      split <;> split <;> omega

theorem hasOpenBracket_eq_false_iff (tokens : List Token) :
    hasOpenBracket tokens = false ↔ tokens.countP opens ≤ tokens.countP closes := by
  rw [hasOpenBracket, foldl_bracketBalance, decide_eq_false_iff_not]
  omega

/-! ## Entries -/

theorem isClosed_of_whole {entry : List Char} (whole : needsMoreInput entry = false)
    (noCommand : Invocation.ofText? entry = none) : IsClosed (scan (String.ofList entry)) := by
  rw [needsMoreInput, noCommand] at whole
  have parts := Bool.or_eq_false_iff.mp whole
  rw [scan, String.toList_ofList]
  constructor
  · intro line reported
    have unclosed : (Scan.scanText entry).errors.any ScanError.isUnterminated = true :=
      List.any_eq_true.mpr ⟨.unterminatedString line, reported, rfl⟩
    rw [parts.1] at unclosed
    cases unclosed
  · exact (hasOpenBracket_eq_false_iff _).mp parts.2

/-- How a session deals with an entry, and what that brings forth. -/
inductive Handled (settings : Settings) (entry : List Char) : Output → Prop
  | blank (isBlank : Text.trim entry = []) : Handled settings entry .empty
  | command (invocation : Invocation) (isCommand : Invocation.ofText? entry = some invocation) :
      Handled settings entry (settings.execute invocation)
  | source (notBlank : Text.trim entry ≠ []) (noCommand : Invocation.ofText? entry = none)
      (closed : IsClosed (scan (String.ofList entry))) :
      Handled settings entry (settings.scanAndShow (String.ofList entry))

theorem handled_answer (settings : Settings) {entry : List Char}
    (whole : needsMoreInput entry = false) :
    Handled settings entry (settings.answer entry) := by
  by_cases isBlank : Text.trim entry = []
  · rw [answer_of_blank settings isBlank]
    exact .blank isBlank
  · cases found : Invocation.ofText? entry with
    | some invocation =>
        rw [answer_of_command settings found]
        exact .command invocation found
    | none =>
        rw [answer_of_source settings isBlank found]
        exact .source isBlank found (isClosed_of_whole whole found)

theorem needsMoreInput_of_mem_rounds {lines : List InputLine} {round : Round}
    (among : round ∈ (transcript lines).rounds) : needsMoreInput round.entry = false := by
  fun_induction transcript lines with
  | case1 => cases among
  | case2 => cases among
  | case3 lines gathering entry rest found leaving =>
      cases List.mem_singleton.mp among
      exact needsMoreInput_of_gather [] lines found
  | case4 lines gathering entry rest found staying later ih =>
      rcases List.mem_cons.mp among with first | behind
      · cases first
        exact needsMoreInput_of_gather [] lines found
      · exact ih behind

/-- Whatever bytes a session is given, what it writes is what its entries bring forth, and every
entry that is scanned as source text is closed. -/
theorem scanned_entries_closed (input : ByteArray) :
    (∀ format logger files dataPath,
      run format logger files dataPath input =
        .err (logger.writeAll (History.prepare files dataPath).1) ++ .out banner ++
          (transcriptOf input).output ⟨format, logger, (History.prepare files dataPath).2⟩ ++
          .out "\n") ∧
      ∀ round ∈ (transcriptOf input).rounds, ∀ settings : Settings,
        Handled settings round.entry (settings.answer round.entry) := by
  constructor
  · intro format logger files dataPath
    exact run_eq_output format logger files dataPath input
  · intro round among settings
    exact handled_answer settings (needsMoreInput_of_mem_rounds among)

/-- An entry of two lines, and an open string in front of the end of the input, which is dropped. -/
theorem scanned_entries_closed_brackets :
    (transcriptOf "(\n1)\n\"open".toUTF8).rounds.map Round.entry = ["(\n1)".toList] ∧
      IsClosed (scan (String.ofList "(\n1)".toList)) := by
  have entries : (transcriptOf "(\n1)\n\"open".toUTF8).rounds.map Round.entry =
      ["(\n1)".toList] := by decide +kernel
  have among : "(\n1)".toList ∈ (transcriptOf "(\n1)\n\"open".toUTF8).rounds.map Round.entry := by
    rw [entries]
    exact List.mem_singleton.mpr rfl
  rcases List.mem_map.mp among with ⟨round, member, isEntry⟩
  have handled := (scanned_entries_closed _).2 round member
    ⟨.text, ⟨.errors, ""⟩, ⟨.empty, []⟩⟩
  rw [isEntry] at handled
  refine ⟨entries, ?_⟩
  generalize Settings.answer _ "(\n1)".toList = output at handled
  cases handled with
  | blank isBlank => exact absurd isBlank (by decide +kernel)
  | command invocation isCommand =>
      have noCommand : Invocation.ofText? "(\n1)".toList = none := by decide +kernel
      rw [noCommand] at isCommand
      cases isCommand
  | source _ _ closed => exact closed

end Session
end LoxTokenizer

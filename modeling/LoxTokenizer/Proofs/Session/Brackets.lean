import LoxTokenizer.Proofs.Session.Closed
import Mathlib.Data.List.Induction

namespace LoxTokenizer
namespace Session

/-!
# Matched brackets

A closing bracket closes the opening bracket that was met last and is still open; if there is none it
closes nothing.  What is left when all tokens have been met are the brackets that nothing closes.

The test for a whole entry does not match brackets, it counts them, and a count tells less: it is the
number of unclosed brackets less the number of closing brackets that closed nothing.  So an entry that
is taken to need more input does need it, but one that begins by closing too much may be taken as
whole with a bracket unclosed behind.  To find every unclosed bracket by counting, the tokens would
have to be counted from each of them on (`unclosed_ne_nil_iff`).
-/

/-- The brackets of some tokens: those that are not closed, the latest first, and the closing ones
that closed nothing. -/
structure Matching where
  unclosed : List Token
  inVain : List Token

namespace Matching

/-- The brackets behind one more token. -/
def meet (matching : Matching) (token : Token) : Matching :=
  if opens token then { matching with unclosed := token :: matching.unclosed }
  else if closes token then
    match matching.unclosed with
    | [] => { matching with inVain := token :: matching.inVain }
    | _ :: outer => { matching with unclosed := outer }
  else matching

def ofTokens (tokens : List Token) : Matching := tokens.foldl meet ⟨[], []⟩

theorem ofTokens_concat (tokens : List Token) (token : Token) :
    ofTokens (tokens ++ [token]) = (ofTokens tokens).meet token :=
  List.foldl_append

/-- How many more brackets are opened than closed. -/
def balance (tokens : List Token) : Int :=
  tokens.foldl (fun balance token => balance + bracketBalance token) 0

theorem balance_concat (tokens : List Token) (token : Token) :
    balance (tokens ++ [token]) = balance tokens + bracketBalance token :=
  List.foldl_append

theorem hasOpenBracket_iff_balance (tokens : List Token) :
    hasOpenBracket tokens = true ↔ 0 < balance tokens :=
  decide_eq_true_iff

theorem not_closes_of_opens {token : Token} (opening : opens token = true) :
    closes token = false := by
  simp only [opens, closes, Bool.or_eq_true, beq_iff_eq] at opening ⊢
  rcases opening with paren | brace
  · rw [paren]
    rfl
  · rw [brace]
    rfl

/-- Whichever bracket a token closes, and whether it closes any: one more or one fewer is unclosed, but
never fewer than none, and what closes nothing is kept apart. -/
theorem length_meet (matching : Matching) (token : Token) :
    ((matching.meet token).unclosed.length : Int) =
        max 0 (matching.unclosed.length + bracketBalance token) ∧
      ((matching.meet token).unclosed.length : Int) - (matching.meet token).inVain.length =
        matching.unclosed.length - matching.inVain.length + bracketBalance token := by
  rcases matching with ⟨unclosed, inVain⟩
  rw [bracketBalance_eq, meet]
  cases opening : opens token with
  | true =>
      rw [if_pos rfl, if_pos rfl, not_closes_of_opens opening, if_neg Bool.false_ne_true]
      simp only [List.length_cons]
      omega
  | false =>
      rw [if_neg Bool.false_ne_true, if_neg Bool.false_ne_true]
      cases closes token with
      | false =>
          rw [if_neg Bool.false_ne_true, if_neg Bool.false_ne_true]
          dsimp only
          omega
      | true =>
          rw [if_pos rfl, if_pos rfl]
          cases unclosed with
          | nil =>
              simp only [List.length_cons, List.length_nil]
              omega
          | cons latest outer =>
              simp only [List.length_cons]
              omega

theorem balance_eq (tokens : List Token) :
    balance tokens = (ofTokens tokens).unclosed.length - (ofTokens tokens).inVain.length := by
  induction tokens using List.reverseRecOn with
  | nil => rfl
  | append_singleton tokens token ih =>
      rw [balance_concat, ofTokens_concat, (length_meet _ token).2, ih]

/-- A count finds a bracket open when the unclosed ones outnumber those that closed nothing. -/
theorem hasOpenBracket_iff (tokens : List Token) :
    hasOpenBracket tokens = true ↔
      (ofTokens tokens).inVain.length < (ofTokens tokens).unclosed.length := by
  rw [hasOpenBracket_iff_balance, balance_eq]
  omega

/-- No tail of the tokens has a greater balance than there are unclosed brackets. -/
theorem balance_le (earlier tail : List Token) :
    balance tail ≤ (ofTokens (earlier ++ tail)).unclosed.length := by
  induction tail using List.reverseRecOn with
  | nil => exact Int.natCast_nonneg _
  | append_singleton tail token ih =>
      rw [balance_concat, ← List.append_assoc, ofTokens_concat, (length_meet _ token).1]
      omega

/-- Some tail has that balance. -/
theorem exists_balance_eq (tokens : List Token) :
    ∃ tail, tail <:+ tokens ∧ balance tail = (ofTokens tokens).unclosed.length := by
  induction tokens using List.reverseRecOn with
  | nil => exact ⟨[], List.suffix_rfl, rfl⟩
  | append_singleton tokens token ih =>
      rcases ih with ⟨tail, ⟨earlier, divided⟩, counted⟩
      rw [ofTokens_concat, (length_meet _ token).1, ← counted]
      by_cases none : balance tail + bracketBalance token ≤ 0
      · exact ⟨[], List.nil_suffix, (Int.max_eq_left none).symm⟩
      · refine ⟨tail ++ [token], ⟨earlier, ?_⟩, ?_⟩
        · rw [← divided, List.append_assoc]
        · rw [balance_concat]
          omega

/-- A bracket is unclosed when a count that starts somewhere among the tokens finds one open. -/
theorem unclosed_ne_nil_iff (tokens : List Token) :
    (ofTokens tokens).unclosed ≠ [] ↔ ∃ tail, tail <:+ tokens ∧ hasOpenBracket tail = true := by
  simp only [hasOpenBracket_iff_balance, ← List.length_pos_iff]
  constructor
  · intro unclosed
    rcases exists_balance_eq tokens with ⟨tail, isTail, counted⟩
    exact ⟨tail, isTail, by omega⟩
  · rintro ⟨tail, ⟨earlier, rfl⟩, isOpen⟩
    have bound := balance_le earlier tail
    omega

end Matching

/-! ## Incomplete entries -/

/-- The source ends inside a string. -/
def EndsInString (result : ScanResult) : Prop :=
  ∃ line, ScanError.unterminatedString line ∈ result.errors

/-- A string is open at the end of the source, or a bracket is unclosed. -/
def IsIncomplete (result : ScanResult) : Prop :=
  EndsInString result ∨ (Matching.ofTokens result.tokens).unclosed ≠ []

theorem any_isUnterminated_iff (errors : List ScanError) :
    errors.any ScanError.isUnterminated = true ↔
      ∃ line, ScanError.unterminatedString line ∈ errors := by
  rw [List.any_eq_true]
  constructor
  · rintro ⟨error, reported, unterminated⟩
    cases error with
    | unterminatedString line => exact ⟨line, reported⟩
    | unexpectedCharacter line character => cases unterminated
  · rintro ⟨line, reported⟩
    exact ⟨.unterminatedString line, reported, rfl⟩

theorem needsMoreInput_eq_true_iff {text : List Char} (noCommand : Invocation.ofText? text = none) :
    needsMoreInput text = true ↔
      EndsInString (Scan.scanText text) ∨
        (Matching.ofTokens (Scan.scanText text).tokens).inVain.length <
          (Matching.ofTokens (Scan.scanText text).tokens).unclosed.length := by
  rw [needsMoreInput, noCommand, Option.isNone_none, Bool.true_and, Bool.or_eq_true,
    any_isUnterminated_iff, Matching.hasOpenBracket_iff, EndsInString]

/-- A text that is no command is taken to need more input when a string is open at its end, or when
more of its brackets are unclosed than closed nothing.  Then it is incomplete; and an incomplete text
is taken to need more input, provided that every closing bracket in it closed something. -/
theorem needsMoreInput_matching {text : List Char} (noCommand : Invocation.ofText? text = none) :
    (needsMoreInput text = true ↔
      EndsInString (Scan.scanText text) ∨
        (Matching.ofTokens (Scan.scanText text).tokens).inVain.length <
          (Matching.ofTokens (Scan.scanText text).tokens).unclosed.length) ∧
      (needsMoreInput text = true → IsIncomplete (Scan.scanText text)) ∧
      ((Matching.ofTokens (Scan.scanText text).tokens).inVain = [] →
        IsIncomplete (Scan.scanText text) → needsMoreInput text = true) := by
  have asked := needsMoreInput_eq_true_iff noCommand
  refine ⟨asked, ?_, ?_⟩
  · rw [asked]
    rintro (inString | outnumber)
    · exact Or.inl inString
    · exact Or.inr (List.ne_nil_of_length_pos (Nat.zero_lt_of_lt outnumber))
  · intro allClose incomplete
    rw [asked, allClose]
    rcases incomplete with inString | unclosed
    · exact Or.inl inString
    · exact Or.inr (List.length_pos_iff.mpr unclosed)

/-- The brackets in a string and in a comment are not met. -/
theorem needsMoreInput_matching_block :
    Invocation.ofText? "f(\"(\"); { // }".toList = none ∧
      needsMoreInput "f(\"(\"); { // }".toList = true := by
  have noCommand : Invocation.ofText? "f(\"(\"); { // }".toList = none := by decide +kernel
  have outnumber :
      (Matching.ofTokens (Scan.scanText "f(\"(\"); { // }".toList).tokens).inVain.length <
        (Matching.ofTokens (Scan.scanText "f(\"(\"); { // }".toList).tokens).unclosed.length := by
    decide +kernel
  exact ⟨noCommand, (needsMoreInput_matching noCommand).1.mpr (Or.inr outnumber)⟩

/-- A bracket that closes nothing makes up, in the count, for one that is unclosed. -/
theorem needsMoreInput_of_inVain :
    Invocation.ofText? ")(".toList = none ∧ needsMoreInput ")(".toList = false ∧
      IsIncomplete (Scan.scanText ")(".toList) := by
  refine ⟨by decide +kernel, by decide +kernel, Or.inr ?_⟩
  have lexemes : (Matching.ofTokens (Scan.scanText ")(".toList).tokens).unclosed.map
      Token.lexeme = ["("] := by decide +kernel
  intro none
  rw [none] at lexemes
  cases lexemes

end Session
end LoxTokenizer

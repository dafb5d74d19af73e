import LoxTokenizer.Proofs.Text.Run
import LoxTokenizer.Text.WhiteSpace
import Mathlib.Data.List.Basic

namespace LoxTokenizer
namespace Text

/-!
# Trimming

What trimming leaves of a text is told without the way it is found: white space neither starts nor
ends it, and nothing but white space stood around it.  There is only one such text, so whoever knows
what is between two stretches of white space knows what trimming leaves.
-/

def AllWhiteSpace (text : List Char) : Prop := ∀ char ∈ text, isWhiteSpace char = true

/-- White space neither starts the text nor ends it. -/
structure IsTrimmed (text : List Char) : Prop where
  starts : ∀ char ∈ text.head?, isWhiteSpace char = false
  ends : ∀ char ∈ text.getLast?, isWhiteSpace char = false

theorem AllWhiteSpace.append {first second : List Char} (white : AllWhiteSpace first)
    (whiteBehind : AllWhiteSpace second) : AllWhiteSpace (first ++ second) :=
  List.forall_mem_append.mpr ⟨white, whiteBehind⟩

theorem trimStart_append {before text : List Char} (white : AllWhiteSpace before)
    (starts : ∀ char ∈ text.head?, isWhiteSpace char = false) : trimStart (before ++ text) = text :=
  IsRun.dropWhile_eq ⟨white, starts⟩

theorem trimEnd_append {text after : List Char} (white : AllWhiteSpace after)
    (ends : ∀ char ∈ text.getLast?, isWhiteSpace char = false) : trimEnd (text ++ after) = text := by
  have whiteReversed : AllWhiteSpace after.reverse := by
    intro char member
    exact white char (List.mem_reverse.mp member)
  have startsReversed : ∀ char ∈ text.reverse.head?, isWhiteSpace char = false := by
    rw [List.head?_reverse]
    exact ends
  rw [trimEnd, List.reverse_append, trimStart_append whiteReversed startsReversed,
    List.reverse_reverse]

theorem trim_of_allWhiteSpace {text : List Char} (white : AllWhiteSpace text) : trim text = [] := by
  have gone : trimStart (text ++ []) = [] := trimStart_append white (by simp)
  rw [List.append_nil] at gone
  rw [trim, gone]
  rfl

/-- What stands between two stretches of white space is what trimming leaves. -/
theorem trim_append {before text after : List Char} (white : AllWhiteSpace before)
    (trimmed : IsTrimmed text) (whiteBehind : AllWhiteSpace after) :
    trim (before ++ (text ++ after)) = text := by
  cases text with
  | nil => exact trim_of_allWhiteSpace (white.append whiteBehind)
  | cons first rest =>
      have starts : ∀ char ∈ ((first :: rest) ++ after).head?, isWhiteSpace char = false :=
        trimmed.starts
      rw [trim, trimStart_append white starts, trimEnd_append whiteBehind trimmed.ends]

theorem exists_trimStart (text : List Char) :
    ∃ before, text = before ++ trimStart text ∧ AllWhiteSpace before ∧
      ∀ char ∈ (trimStart text).head?, isWhiteSpace char = false :=
  ⟨text.takeWhile isWhiteSpace, List.takeWhile_append_dropWhile.symm,
    (IsRun.takeWhile_dropWhile isWhiteSpace text).all,
    (IsRun.takeWhile_dropWhile isWhiteSpace text).stops⟩

theorem exists_trimEnd (text : List Char) :
    ∃ after, text = trimEnd text ++ after ∧ AllWhiteSpace after ∧
      ∀ char ∈ (trimEnd text).getLast?, isWhiteSpace char = false := by
  rcases exists_trimStart text.reverse with ⟨before, parts, white, starts⟩
  refine ⟨before.reverse, ?_, ?_, ?_⟩
  · rw [trimEnd, ← List.reverse_append, ← parts, List.reverse_reverse]
  · intro char member
    exact white char (List.mem_reverse.mp member)
  · rw [trimEnd, List.getLast?_reverse]
    exact starts

/-- Trimming takes nothing but white space away, and all of it. -/
theorem exists_trim (text : List Char) :
    ∃ before after, text = before ++ (trim text ++ after) ∧ AllWhiteSpace before ∧
      AllWhiteSpace after ∧ IsTrimmed (trim text) := by
  rcases exists_trimStart text with ⟨before, parts, white, starts⟩
  rcases exists_trimEnd (trimStart text) with ⟨after, partsBehind, whiteBehind, ends⟩
  refine ⟨before, after, ?_, white, whiteBehind, ?_, ends⟩
  · rw [trim, ← partsBehind]
    exact parts
  · intro char first
    apply starts
    rw [partsBehind]
    exact List.mem_head?_append_of_mem_head? first

/-- What stands between the white space around a text, if anything does, tells where it stands. -/
theorem IsTrimmed.unique {before core after otherBefore otherCore otherAfter : List Char}
    (trimmed : IsTrimmed core) (some : core ≠ []) (white : AllWhiteSpace before)
    (whiteBehind : AllWhiteSpace after) (otherTrimmed : IsTrimmed otherCore)
    (otherWhite : AllWhiteSpace otherBefore) (otherWhiteBehind : AllWhiteSpace otherAfter)
    (same : before ++ (core ++ after) = otherBefore ++ (otherCore ++ otherAfter)) :
    before = otherBefore ∧ core = otherCore ∧ after = otherAfter := by
  have sameCore : core = otherCore := by
    rw [← trim_append white trimmed whiteBehind, same,
      trim_append otherWhite otherTrimmed otherWhiteBehind]
  subst sameCore
  have startsWith : ∀ rest, ∀ char ∈ (core ++ rest).head?, isWhiteSpace char = false := by
    intro rest
    rw [List.head?_append_of_ne_nil core some]
    exact trimmed.starts
  have run : IsRun isWhiteSpace before (core ++ after) := ⟨white, startsWith after⟩
  have otherRun : IsRun isWhiteSpace otherBefore (core ++ otherAfter) :=
    ⟨otherWhite, startsWith otherAfter⟩
  rcases run.unique otherRun same with ⟨sameBefore, sameRest⟩
  exact ⟨sameBefore, rfl, List.append_cancel_left sameRest⟩

end Text
end LoxTokenizer

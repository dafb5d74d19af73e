import LoxTokenizer.Proofs.Scan.Rejection

namespace LoxTokenizer
namespace Scan

/-!
# Lines

The scan counts its lines along the way, in the main loop and inside strings.  What it answers is
nevertheless what a reader of the source would count: the line of a byte offset is one more than the
number of line feeds before it, and every token and every error is on the line of the place that it
is about.  For an open string that place is the end of the source.
-/

/-- The line of a byte offset, if a character of the text starts there or the text ends there. -/
def lineAt? (text : List Char) (offset : Nat) : Option Nat :=
  (Text.splitAtByte? offset text).map fun (before, _) => 1 + before.count '\n'

theorem lineAt?_of_isPrefix {text before : List Char} (starts : before <+: text) :
    lineAt? text (Text.byteLength before) = some (lineBehind before) := by
  rcases starts with ⟨behind, rfl⟩
  rw [lineAt?, Text.splitAtByte?_append]
  rfl

/-- Lines do not decrease along a text. -/
theorem lineBehind_le_of_isPrefix {first second : List Char} (starts : first <+: second) :
    lineBehind first ≤ lineBehind second := by
  rcases starts with ⟨behind, rfl⟩
  rw [lineBehind_append]
  exact Nat.le_add_right _ _

/-- A token comes from a placed piece, and is as far on as that piece is. -/
theorem exists_of_mem_tokensOf {text : List Char} {token : Token}
    (member : token ∈ tokensOf (placedPieces text)) :
    ∃ before, before <+: text ∧ Text.byteLength before = token.span.start ∧
      lineBehind before = token.line := by
  rcases List.mem_filterMap.mp member with ⟨placed, memberPlaced, found⟩
  have told := (Placed.token?_eq_some found).1
  have inside := text_isPrefix_of_mem_layOut memberPlaced
  rw [List.nil_append, textOf_pieces] at inside
  refine ⟨placed.before, (List.prefix_append _ _).trans inside, ?_, ?_⟩
  · rw [told, Placed.span]
  · rw [told, Placed.line]

theorem pairwise_line_tokensOf (text : List Char) :
    (tokensOf (placedPieces text)).Pairwise fun first second => first.line ≤ second.line := by
  refine List.pairwise_filterMap.mpr ((pairwise_layOut [] (pieces text)).imp ?_)
  intro first second behind firstToken isFirst secondToken isSecond
  rw [(Placed.token?_eq_some isFirst).1, (Placed.token?_eq_some isSecond).1]
  exact lineBehind_le_of_isPrefix ((List.prefix_append _ _).trans behind)

/-- A rejected character stands in the text where its rejection says. -/
theorem isPrefix_of_mem_rejections {text : List Char} {rejection : Rejection}
    (member : rejection ∈ rejections text) :
    rejection.before ++ [rejection.character] <+: text := by
  have inside := (isPrefix_of_mem_rejectionsOf member).2
  rwa [List.nil_append, textOf_pieces] at inside

/-- Every token of a scan is on the line of its offset, the last one on the line where the source
ends; so is every rejected character, and the error of an open string names the line of the end.
Hence no token is on an earlier line than the token before it. -/
theorem scan_lines (source : String) :
    (∀ token ∈ (scan source).tokens,
      lineAt? source.toList token.span.start = some token.line) ∧
    (scan source).tokens.getLast? =
      some (Token.endOfInput (1 + source.toList.count '\n') source.utf8ByteSize) ∧
    (scan source).errors =
      (rejections source.toList).map
          (fun rejection => .unexpectedCharacter (1 + rejection.before.count '\n') rejection.character) ++
        (if leavesOpen source.toList
          then [.unterminatedString (1 + source.toList.count '\n')] else []) ∧
    (∀ rejection ∈ rejections source.toList,
      rejection.before ++ [rejection.character] <+: source.toList) ∧
    (scan source).tokens.Pairwise (fun first second => first.line ≤ second.line) := by
  have tokens : (scan source).tokens =
      tokensOf (placedPieces source.toList) ++ [TokenStream.finalToken source.toList] := by
    rw [scan, scanText_eq]
  refine ⟨?_, ?_, ?_, ?_, ?_⟩
  · intro token member
    rw [tokens] at member
    rcases List.mem_append.mp member with inside | last
    · rcases exists_of_mem_tokensOf inside with ⟨before, starts, offset, line⟩
      rw [← offset, ← line]
      exact lineAt?_of_isPrefix starts
    · rw [List.mem_singleton.mp last]
      exact lineAt?_of_isPrefix List.prefix_rfl
  · rw [tokens, List.getLast?_concat, TokenStream.finalToken, Text.byteLength_toList]
    rfl
  · exact scanText_errors source.toList
  · intro rejection member
    exact isPrefix_of_mem_rejections member
  · rw [tokens]
    refine List.pairwise_append.mpr ⟨pairwise_line_tokensOf _, List.pairwise_singleton _ _, ?_⟩
    intro token inside last isLast
    rcases exists_of_mem_tokensOf inside with ⟨before, starts, _, line⟩
    rw [List.mem_singleton.mp isLast, ← line]
    exact lineBehind_le_of_isPrefix starts

end Scan
end LoxTokenizer

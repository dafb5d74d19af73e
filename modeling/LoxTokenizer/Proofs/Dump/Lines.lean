import LoxTokenizer.Proofs.Dump.Listing
import LoxTokenizer.Proofs.Scan.Placement

namespace LoxTokenizer

open Scan (lineFeeds lineFeeds_append)

/-!
# Lines of a listing

A listing is meant to have a line for each token.  Lexemes and literals are shown as they are, though,
and a string may go over several lines of its source: it then takes as many more lines in the lexeme
and again in the literal.  Here the lines are counted.  Nothing but strings spoils the listing, so a
reader of lines can rely on it exactly as far as no string of the source holds a line feed.
-/

/-- A text without line feeds is one line. -/
theorem splitOn_of_lineFeeds_eq_zero {text : List Char} (oneLine : lineFeeds text = 0) :
    text.splitOn '\n' = [text] :=
  List.splitOn_eq_singleton (List.count_eq_zero.mp oneLine)

/-- A text has one line more than it has line feeds. -/
theorem length_splitOn_lineFeed (text : List Char) :
    (text.splitOn '\n').length = lineFeeds text + 1 := by
  induction text with
  | nil => rfl
  | cons char rest ih =>
      rw [List.splitOn_cons_eq_if_modifyHead]
      split
      · rename_i isFeed
        rw [List.length_cons, ih, lineFeeds, lineFeeds, eq_of_beq isFeed, List.count_cons_self]
      · rename_i other
        rw [List.length_modifyHead, ih, lineFeeds, lineFeeds,
          List.count_cons_of_ne (ne_of_beq_false (Bool.eq_false_iff.mpr other))]

namespace Token

theorem lineFeeds_label (tag : Tag) : lineFeeds tag.label.toList = 0 := by
  rw [lineFeeds, List.count_eq_zero]
  intro member
  exact absurd (tag.label_parts _ member) (by decide)

theorem lineFeeds_display (token : Token) :
    lineFeeds token.display.toList =
      lineFeeds token.lexeme.toList + lineFeeds (literalText token.literal?) := by
  have space : ∀ text, lineFeeds (' ' :: text) = lineFeeds text :=
    fun text => List.count_cons_of_ne (by decide)
  rw [toList_display, lineFeeds_append, lineFeeds_label, Nat.zero_add, space, lineFeeds_append,
    space]

namespace Genuine

variable {token : Token} (genuine : token.Genuine)
include genuine

/-- A lexeme that is no string is on one line, and so is what stands for its literal. -/
theorem lineFeeds_of_noString (noString : token.kind.tag ≠ .string) :
    lineFeeds token.lexeme.toList = 0 ∧ lineFeeds (literalText token.literal?) = 0 := by
  have outside : '\n' ∉ token.lexeme.toList := genuine.blank_not_mem_lexeme noString (by decide)
  refine ⟨List.count_eq_zero.mpr outside, List.count_eq_zero.mpr ?_⟩
  have noLiteral := genuine.not_mem_literal (by decide) (by decide) outside
  cases carried : token.literal? with
  | none => decide
  | some literal => exact noLiteral literal carried

/-- A string stands in its lexeme, between two quotes, and is its literal. -/
theorem lineFeeds_of_string {text : String} (isString : token.kind = .string text) :
    lineFeeds token.lexeme.toList = lineFeeds text.toList ∧
      lineFeeds (literalText token.literal?) = lineFeeds text.toList := by
  have literal : token.literal? = some (.string text) := by
    rw [literal?, isString]
  have sameLiteral := genuine.literal?_eq
  rcases genuine.string_lexeme (by rw [isString]; rfl) with ⟨body, inside, lexeme⟩
  rw [literal, isString, lexeme] at sameLiteral
  have isBody : text = String.ofList body := by
    simpa [literalOf, Kind.tag] using sameLiteral
  refine ⟨?_, by rw [literal]; rfl⟩
  rw [lexeme, isBody, String.toList_ofList]
  simp [lineFeeds]

/-- The line feeds of a lexeme are shown a second time in the literal. -/
theorem lineFeeds_display_eq :
    lineFeeds token.display.toList = 2 * lineFeeds token.lexeme.toList := by
  rw [token.lineFeeds_display]
  cases isKind : token.kind with
  | string text =>
      rcases genuine.lineFeeds_of_string isKind with ⟨lexeme, literal⟩
      omega
  | _ =>
      rcases genuine.lineFeeds_of_noString (by rw [isKind]; exact fun same => by cases same)
        with ⟨lexeme, literal⟩
      omega

/-- A token is shown on one line just when it is no string with a line feed. -/
theorem lineFeeds_display_eq_zero_iff :
    lineFeeds token.display.toList = 0 ↔
      ∀ text, token.kind = .string text → '\n' ∉ text.toList := by
  rw [genuine.lineFeeds_display_eq, Nat.mul_eq_zero, or_iff_right (by decide)]
  constructor
  · intro oneLine text isString
    rw [(genuine.lineFeeds_of_string isString).1] at oneLine
    exact List.count_eq_zero.mp oneLine
  · intro strings
    cases isKind : token.kind with
    | string text =>
        rw [(genuine.lineFeeds_of_string isKind).1]
        exact List.count_eq_zero.mpr (strings text isKind)
    | _ =>
        exact (genuine.lineFeeds_of_noString (by rw [isKind]; exact fun same => by cases same)).1

end Genuine
end Token

namespace Dump

/-- The lines of a listing are those of its tokens, one token after another. -/
theorem splitOn_joinLines (line : String) (more : List String) :
    (joinLines (line :: more)).toList.splitOn '\n' =
      (line :: more).flatMap fun shown => shown.toList.splitOn '\n' := by
  induction more generalizing line with
  | nil => simp [joinLines]
  | cons next rest ih =>
      have divided : (joinLines (line :: next :: rest)).toList =
          line.toList ++ '\n' :: (joinLines (next :: rest)).toList := by
        simp [joinLines]
      rw [divided, List.splitOn_append_cons_self, ih, List.flatMap_cons (x := line)]

theorem splitOn_render_scan (source : String) :
    (render (scan source).tokens .text).toList.splitOn '\n' =
      (scan source).tokens.flatMap fun token => token.display.toList.splitOn '\n' := by
  cases tokens : (scan source).tokens with
  | nil => simp [scan, Scan.scanText_eq] at tokens
  | cons token rest =>
      rw [render, List.map_cons, splitOn_joinLines, ← List.map_cons, List.flatMap_map]

theorem length_splitOn_render_scan (source : String) :
    ((render (scan source).tokens .text).toList.splitOn '\n').length =
      (scan source).tokens.length +
        2 * lineFeeds ((scan source).tokens.flatMap fun token => token.lexeme.toList) := by
  rw [splitOn_render_scan]
  have genuine : ∀ token ∈ (scan source).tokens, token.Genuine :=
    fun _ => Token.genuine_of_mem_scan
  generalize (scan source).tokens = tokens at genuine
  induction tokens with
  | nil => rfl
  | cons token rest ih =>
      rw [List.forall_mem_cons] at genuine
      rw [List.flatMap_cons, List.length_append, ih genuine.2, length_splitOn_lineFeed,
        genuine.1.lineFeeds_display_eq, List.length_cons, List.flatMap_cons, lineFeeds_append]
      omega

/-- The lines of a listing are those of its tokens, one token after another, and there are two more
than tokens for each line feed in a string.  So a listing has a line for each token, which is the line
of that token, exactly when no string in it holds a line feed. -/
theorem lines_of_listing (source : String) :
    let lines := (render (scan source).tokens .text).toList.splitOn '\n'
    lines = (scan source).tokens.flatMap (fun token => token.display.toList.splitOn '\n') ∧
    lines.length = (scan source).tokens.length +
      2 * lineFeeds ((scan source).tokens.flatMap fun token => token.lexeme.toList) ∧
    (lines = (scan source).tokens.map (fun token => token.display.toList) ↔
      ∀ token ∈ (scan source).tokens, ∀ text, token.kind = .string text → '\n' ∉ text.toList) := by
  intro lines
  have count := length_splitOn_render_scan source
  refine ⟨splitOn_render_scan source, count, ?_⟩
  constructor
  · intro oneEach token member
    have genuine := Token.genuine_of_mem_scan member
    have noFeeds : lineFeeds ((scan source).tokens.flatMap fun token => token.lexeme.toList) = 0 := by
      have sameLength := (congrArg List.length oneEach).symm.trans count
      rw [List.length_map] at sameLength
      omega
    have noneHere : lineFeeds token.lexeme.toList = 0 :=
      List.count_eq_zero.mpr fun feed =>
        List.count_eq_zero.mp noFeeds (List.mem_flatMap.mpr ⟨token, member, feed⟩)
    rw [← genuine.lineFeeds_display_eq_zero_iff, genuine.lineFeeds_display_eq, noneHere]
  · intro strings
    have single : ∀ token ∈ (scan source).tokens,
        token.display.toList.splitOn '\n' = [token.display.toList] := by
      intro token member
      have genuine := Token.genuine_of_mem_scan member
      exact splitOn_of_lineFeeds_eq_zero
        (genuine.lineFeeds_display_eq_zero_iff.mpr (strings token member))
    change (render (scan source).tokens .text).toList.splitOn '\n' = _
    rw [splitOn_render_scan, List.map_eq_flatMap, List.flatMap_def, List.flatMap_def,
      List.map_congr_left single]

/-- Two tokens, of which the first is a string on two lines, are listed in four lines. -/
theorem lines_of_listing_longString :
    (scan "\"a\nb\"").tokens.length = 2 ∧
      (render (scan "\"a\nb\"").tokens .text).toList.splitOn '\n' =
        ["STRING \"a".toList, "b\" a".toList, "b".toList, "EOF  null".toList] := by
  decide +kernel

end Dump
end LoxTokenizer

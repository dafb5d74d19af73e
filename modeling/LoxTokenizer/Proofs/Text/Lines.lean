import LoxTokenizer.Text.Lines

namespace LoxTokenizer
namespace Text

/-!
# Lines of a text

A text is its first line and the lines behind it, and only the last line may lack a line feed.  So
what is said of a text line by line can be proved by an induction on its lines.  A run of whole lines
is a front part of a text that ends where a line ends.
-/

/-! ## Line by line -/

theorem cutLines_cons {char : Char} (notEnd : char ≠ '\n') {rest first : List Char}
    {lines : List (List Char)} (cut : cutLines rest = first :: lines) :
    cutLines (char :: rest) = (char :: first) :: lines := by
  unfold cutLines at cut ⊢
  rw [cutBehind, if_neg (by simpa using notEnd), cut]

/-- The first line, its line feed with it, and the lines behind. -/
theorem cutLines_append_lineFeed {content : List Char} (within : '\n' ∉ content)
    (rest : List Char) :
    cutLines (content ++ '\n' :: rest) = (content ++ ['\n']) :: cutLines rest := by
  induction content with
  | nil => rfl
  | cons char later ih =>
      exact cutLines_cons (Ne.symm (List.ne_of_not_mem_cons within))
        (ih (List.not_mem_of_not_mem_cons within))

/-- A last line without a line feed. -/
theorem cutLines_of_not_mem {content : List Char} (within : '\n' ∉ content)
    (someText : content ≠ []) : cutLines content = [content] := by
  induction content with
  | nil => exact absurd rfl someText
  | cons char later ih =>
      have notEnd : char ≠ '\n' := Ne.symm (List.ne_of_not_mem_cons within)
      cases later with
      | nil => simp [cutLines, cutBehind, notEnd]
      | cons next more =>
          exact cutLines_cons notEnd (ih (List.not_mem_of_not_mem_cons within) (List.cons_ne_nil _ _))

theorem lines_induction {motive : List Char → Prop} (nil : motive [])
    (unended : ∀ content, '\n' ∉ content → content ≠ [] → motive content)
    (line : ∀ content rest, '\n' ∉ content → motive rest → motive (content ++ '\n' :: rest))
    (text : List Char) : motive text := by
  by_cases someEnd : '\n' ∈ text
  · rcases List.eq_append_cons_of_mem someEnd with ⟨content, rest, parts, within⟩
    have shorter : rest.length < text.length := by
      rw [parts, List.length_append, List.length_cons]
      omega
    have behind := lines_induction nil unended line rest
    rw [parts]
    exact line content rest within behind
  · by_cases empty : text = []
    · rw [empty]
      exact nil
    · exact unended text someEnd empty
termination_by text.length

/-- A string can be read back from its bytes. -/
theorem fromUTF8?_toUTF8 (text : String) : String.fromUTF8? text.toUTF8 = some text := by
  simp only [String.fromUTF8?]
  exact dif_pos text.isValidUTF8

theorem inputLines_toUTF8 (text : String) :
    inputLines text.toUTF8 = (cutLines text.toList).map some := by
  rw [inputLines, fromUTF8?_toUTF8]

/-! ## The end of a line -/

namespace Line

theorem ofText_cons (char : Char) {rest : List Char} (more : rest ≠ [])
    (noReturn : char = '\r' → rest ≠ ['\n']) :
    ofText (char :: rest) = ⟨char :: (ofText rest).content, (ofText rest).ending⟩ := by
  rw [ofText]
  · intro _ impossible
    exact more impossible
  · intro isReturn
    exact noReturn isReturn

/-- Only the last characters of a text decide where its line end starts, unless a carriage return
stands right in front of them. -/
theorem ofText_append {begun rest : List Char} (noReturn : begun.getLast? ≠ some '\r')
    (more : rest ≠ []) :
    ofText (begun ++ rest) = ⟨begun ++ (ofText rest).content, (ofText rest).ending⟩ := by
  induction begun with
  | nil => rfl
  | cons char later ih =>
      have moreLater : later ++ rest ≠ [] := List.append_ne_nil_of_right_ne_nil later more
      have noReturnLater : later.getLast? ≠ some '\r' := by
        cases later with
        | nil => exact fun impossible => by cases impossible
        | cons next others => rwa [List.getLast?_cons_cons] at noReturn
      have apart : char = '\r' → later ++ rest ≠ ['\n'] := by
        intro isReturn single
        cases later with
        | nil => exact noReturn (congrArg some isReturn)
        | cons next others =>
            have nothing := (List.append_eq_nil_iff.mp (List.cons.inj single).2).2
            exact more nothing
      rw [List.cons_append, ofText_cons char moreLater apart, ih noReturnLater]
      rfl

/-- What ends with a line feed has a line end. -/
theorem ending_ofText_ne_none {text : List Char} (ended : text.getLast? = some '\n') :
    (ofText text).ending ≠ .none := by
  fun_induction ofText text with
  | case1 => cases ended
  | case2 => exact fun impossible => LineEnd.noConfusion impossible
  | case3 => exact fun impossible => LineEnd.noConfusion impossible
  | case4 char rest notAlone _ line ih =>
      cases rest with
      | nil =>
          have isEnd : char = '\n' := Option.some.inj ended
          exact absurd rfl (notAlone isEnd)
      | cons next others =>
          rw [List.getLast?_cons_cons] at ended
          exact ih ended

theorem mem_of_mem_content {text : List Char} {char : Char}
    (among : char ∈ (ofText text).content) : char ∈ text := by
  rw [← text_ofText text]
  exact List.mem_append_left _ among

end Line

/-! ## Runs of whole lines -/

/-- Some lines in front of a text, each with its end; the last one may be the unended one. -/
structure WholeLines (taken text : List Char) : Prop where
  nonempty : taken ≠ []
  front : taken <+: text
  ended : taken.getLast? = some '\n' ∨ taken = text

theorem not_wholeLines_nil (taken : List Char) : ¬ WholeLines taken [] := by
  intro lines
  exact lines.nonempty (List.prefix_nil.mp lines.front)

theorem wholeLines_unended_iff {content : List Char} (within : '\n' ∉ content)
    (someText : content ≠ []) (taken : List Char) :
    WholeLines taken content ↔ taken = content := by
  constructor
  · intro lines
    rcases lines.ended with ended | all
    · exact absurd (lines.front.subset (List.mem_of_getLast? ended)) within
    · exact all
  · intro all
    subst all
    exact ⟨someText, List.prefix_rfl, Or.inr rfl⟩

theorem append_line (begun content behind : List Char) :
    begun ++ (content ++ ['\n']) ++ behind = begun ++ (content ++ '\n' :: behind) := by
  rw [List.append_assoc, List.append_assoc]
  rfl

theorem getLast?_line {content behind : List Char} (someText : behind ≠ []) :
    (content ++ '\n' :: behind).getLast? = behind.getLast? := by
  cases behind with
  | nil => exact absurd rfl someText
  | cons next later =>
      rw [List.getLast?_append, List.getLast?_cons_cons, List.getLast?_cons]
      rfl

/-- A part of a line without its end is no whole line. -/
theorem not_wholeLines_within {content taken more : List Char} (within : '\n' ∉ content)
    (parts : content = taken ++ more) (rest : List Char) :
    ¬ WholeLines taken (content ++ '\n' :: rest) := by
  intro lines
  rcases lines.ended with ended | all
  · apply within
    rw [parts]
    exact List.mem_append_left _ (List.mem_of_getLast? ended)
  · have lengths := congrArg List.length all
    rw [parts, List.length_append, List.length_append, List.length_cons] at lengths
    omega

theorem wholeLines_line (content rest : List Char) :
    WholeLines (content ++ ['\n']) (content ++ '\n' :: rest) := by
  constructor
  · exact List.append_ne_nil_of_right_ne_nil _ (List.cons_ne_nil _ _)
  · exact ⟨rest, List.append_assoc _ _ _⟩
  · exact Or.inl List.getLast?_concat

theorem WholeLines.behind_line {behind rest : List Char} (lines : WholeLines behind rest)
    (content : List Char) : WholeLines (content ++ '\n' :: behind) (content ++ '\n' :: rest) := by
  constructor
  · exact List.append_ne_nil_of_right_ne_nil _ (List.cons_ne_nil _ _)
  · rcases lines.front with ⟨unread, parts⟩
    exact ⟨unread, by rw [List.append_assoc, List.cons_append, parts]⟩
  · rcases lines.ended with ended | all
    · exact Or.inl ((getLast?_line lines.nonempty).trans ended)
    · exact Or.inr (by rw [all])

/-- Whole lines are the first line, or that and whole lines of what is behind it. -/
theorem wholeLines_line_cases {content rest taken : List Char} (within : '\n' ∉ content)
    (lines : WholeLines taken (content ++ '\n' :: rest)) :
    taken = content ++ ['\n'] ∨ ∃ behind, taken = content ++ '\n' :: behind ∧ WholeLines behind rest := by
  rcases lines.front with ⟨unread, parts⟩
  rcases List.append_eq_append_iff.mp parts with ⟨more, short, _⟩ | ⟨more, long, left⟩
  · exact absurd lines (not_wholeLines_within within short rest)
  · cases more with
    | nil =>
        have short : content = taken ++ [] := by rw [long, List.append_nil, List.append_nil]
        exact absurd lines (not_wholeLines_within within short rest)
    | cons first behind =>
        rcases List.cons.inj left with ⟨isEnd, others⟩
        subst isEnd
        by_cases nothing : behind = []
        · rw [long, nothing]
          exact Or.inl rfl
        · refine Or.inr ⟨behind, long, nothing, ⟨unread, others.symm⟩, ?_⟩
          rcases lines.ended with ended | all
          · rw [long, getLast?_line nothing] at ended
            exact Or.inl ended
          · rw [long] at all
            exact Or.inr (List.cons.inj (List.append_cancel_left all)).2

end Text
end LoxTokenizer

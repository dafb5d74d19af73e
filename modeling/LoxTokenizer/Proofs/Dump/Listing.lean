import LoxTokenizer.Dump
import LoxTokenizer.Proofs.Scan.Genuine
import LoxTokenizer.Proofs.Token.Label

namespace LoxTokenizer

open Text (IsRun)

/-!
# Listings can be told apart

A listing shows lexemes and literals as they are, and a string may hold anything: line breaks, and text
that looks like further lines.  So a listing is not taken apart into lines here but read from the left.
The label ends at the first space and tells the tag; the tag tells how the lexeme ends; the lexeme
tells the literal.  Hence no line of a token starts with another one's, and the listing of one scan
is that of another only if the two show the same.
-/

namespace Token

/-- Two tokens of which a listing shows the same. -/
structure Agrees (first second : Token) : Prop where
  sameTag : first.kind.tag = second.kind.tag
  sameLexeme : first.lexeme = second.lexeme
  sameLiteral : first.literal? = second.literal?

def literalText (literal? : Option Literal) : List Char :=
  ((literal?.map Literal.display).getD "null").toList

theorem toList_display (token : Token) :
    token.display.toList =
      token.kind.tag.label.toList ++
        ' ' :: (token.lexeme.toList ++ ' ' :: literalText token.literal?) := by
  simp [display, literalText]

theorem Agrees.display_eq {first second : Token} (agrees : first.Agrees second) :
    first.display = second.display := by
  rw [display, display, agrees.sameTag, agrees.sameLexeme, agrees.sameLiteral]

theorem space_not_mem_label (tag : Tag) : ' ' ∉ tag.label.toList := by
  intro member
  exact absurd (tag.label_parts _ member) (by decide)

/-- What stands in front of the first space. -/
theorem eq_of_first_space {front otherFront behind otherBehind : List Char} (noSpace : ' ' ∉ front)
    (noOther : ' ' ∉ otherFront) (same : front ++ ' ' :: behind = otherFront ++ ' ' :: otherBehind) :
    front = otherFront ∧ behind = otherBehind := by
  have run : IsRun (· != ' ') front (' ' :: behind) := .ne_of_not_mem noSpace (by simp)
  have otherRun : IsRun (· != ' ') otherFront (' ' :: otherBehind) := .ne_of_not_mem noOther (by simp)
  rcases run.unique otherRun same with ⟨sameFront, sameBehind⟩
  exact ⟨sameFront, (List.cons.inj sameBehind).2⟩

variable {first second : Token}

/-- The tag of a token tells where its lexeme ends. -/
theorem lexeme_inj (genuine : first.Genuine) (otherGenuine : second.Genuine)
    (sameTag : first.kind.tag = second.kind.tag) {behind otherBehind : List Char}
    (same : first.lexeme.toList ++ ' ' :: behind = second.lexeme.toList ++ ' ' :: otherBehind) :
    first.lexeme.toList = second.lexeme.toList ∧ behind = otherBehind := by
  by_cases isString : first.kind.tag = .string
  · rcases genuine.string_lexeme isString with ⟨body, inside, lexeme⟩
    rcases otherGenuine.string_lexeme (sameTag ▸ isString) with ⟨other, otherInside, otherLexeme⟩
    rw [lexeme, otherLexeme] at same ⊢
    simp only [List.cons_append, List.append_assoc, List.nil_append, List.cons.injEq, true_and]
      at same ⊢
    have run : IsRun (· != '"') body ('"' :: ' ' :: behind) := .ne_of_not_mem inside (by simp)
    have otherRun : IsRun (· != '"') other ('"' :: ' ' :: otherBehind) :=
      .ne_of_not_mem otherInside (by simp)
    rcases run.unique otherRun same with ⟨sameBody, sameBehind⟩
    simp only [List.cons.injEq, true_and] at sameBehind
    exact ⟨by rw [sameBody], sameBehind⟩
  · exact eq_of_first_space (genuine.blank_not_mem_lexeme isString (by decide))
      (otherGenuine.blank_not_mem_lexeme (sameTag ▸ isString) (by decide)) same

/-- The line of a token tells where it ends. -/
theorem display_append_inj (genuine : first.Genuine) (otherGenuine : second.Genuine)
    {behind otherBehind : List Char}
    (same : first.display.toList ++ behind = second.display.toList ++ otherBehind) :
    first.Agrees second ∧ behind = otherBehind := by
  simp only [toList_display, List.append_assoc, List.cons_append] at same
  rcases eq_of_first_space (space_not_mem_label _) (space_not_mem_label _) same with
    ⟨sameLabel, sameBehindLabel⟩
  have sameTag := Tag.label_inj (String.toList_inj.mp sameLabel)
  rcases lexeme_inj genuine otherGenuine sameTag sameBehindLabel with ⟨sameLexeme, sameBehindLexeme⟩
  have sameLiteral : first.literal? = second.literal? := by
    rw [genuine.literal?_eq, otherGenuine.literal?_eq, sameTag, sameLexeme]
  rw [sameLiteral] at sameBehindLexeme
  exact ⟨⟨sameTag, String.toList_inj.mp sameLexeme, sameLiteral⟩,
    List.append_cancel_left sameBehindLexeme⟩

end Token

namespace Dump

/-- What follows the first line of a listing. -/
def followingLines : List Token → List Char
  | [] => []
  | token :: tokens => '\n' :: (render (token :: tokens) .text).toList

theorem render_cons (token : Token) (tokens : List Token) :
    (render (token :: tokens) .text).toList = token.display.toList ++ followingLines tokens := by
  cases tokens with
  | nil => simp [render, joinLines, followingLines]
  | cons next rest => simp [render, joinLines, followingLines]

/-- There is always a first line. -/
theorem followingLines_scan (source : String) :
    followingLines (scan source).tokens = '\n' :: (render (scan source).tokens .text).toList := by
  cases tokens : (scan source).tokens with
  | nil => simp [scan, Scan.scanText_eq] at tokens
  | cons token rest => rfl

/-- Two token lists that agree position by position. -/
structure AgreeThroughout (first second : List Token) : Prop where
  sameLength : first.length = second.length
  agree : ∀ {index : Nat} {token other : Token}, first[index]? = some token →
    second[index]? = some other → token.Agrees other

namespace AgreeThroughout

theorem nil : AgreeThroughout [] [] where
  sameLength := rfl
  agree here := by cases here

theorem cons {token other : Token} {first second : List Token} (here : token.Agrees other)
    (later : AgreeThroughout first second) :
    AgreeThroughout (token :: first) (other :: second) where
  sameLength := congrArg Nat.succ later.sameLength
  agree := by
    intro index token other isToken isOther
    cases index with
    | zero =>
        cases isToken
        cases isOther
        exact here
    | succ index => exact later.agree isToken isOther

theorem render_eq {first second : List Token} (agree : AgreeThroughout first second) :
    render first .text = render second .text := by
  have sameLines : first.map Token.display = second.map Token.display := by
    apply List.ext_getElem
    · rw [List.length_map, List.length_map, agree.sameLength]
    · intro index inFirst inSecond
      rw [List.length_map] at inFirst inSecond
      rw [List.getElem_map, List.getElem_map]
      apply Token.Agrees.display_eq
      exact agree.agree (List.getElem?_eq_getElem inFirst) (List.getElem?_eq_getElem inSecond)
  rw [render, render, sameLines]

end AgreeThroughout

/-- Lists of genuine tokens with the same listing agree: each line is taken off both listings, and
what follows is the same again. -/
theorem agree_of_render_eq {first second : List Token} (genuine : ∀ token ∈ first, token.Genuine)
    (otherGenuine : ∀ token ∈ second, token.Genuine)
    (same : followingLines first = followingLines second) : AgreeThroughout first second := by
  induction first generalizing second with
  | nil =>
      cases second with
      | nil => exact .nil
      | cons other second => cases same
  | cons token first ih =>
      cases second with
      | nil => cases same
      | cons other second =>
          rw [List.forall_mem_cons] at genuine otherGenuine
          rw [followingLines, followingLines, render_cons, render_cons] at same
          have sameLines := (List.cons.inj same).2
          rcases Token.display_append_inj genuine.1 otherGenuine.1 sameLines with ⟨agree, sameBehind⟩
          exact .cons agree (ih genuine.2 otherGenuine.2 sameBehind)

/-- Two sources have the same listing exactly when their token lists have the same length and agree
position by position in tag, lexeme and literal. -/
theorem render_text_eq_iff (a b : String) :
    render (scan a).tokens .text = render (scan b).tokens .text ↔
      AgreeThroughout (scan a).tokens (scan b).tokens := by
  constructor
  · intro same
    apply agree_of_render_eq (fun _ => Token.genuine_of_mem_scan)
      (fun _ => Token.genuine_of_mem_scan)
    rw [followingLines_scan, followingLines_scan, same]
  · exact AgreeThroughout.render_eq

end Dump
end LoxTokenizer

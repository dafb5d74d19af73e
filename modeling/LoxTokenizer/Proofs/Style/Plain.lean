import LoxTokenizer.Proofs.Text.Run
import LoxTokenizer.Style

namespace LoxTokenizer
namespace Style

open Text (IsRun)

/-!
# Text without its styling

A terminal does not show control sequences.  What it shows is the text with all of them deleted, and a
text that holds no escape character shows as it is.  A sequence ends in a letter and takes in nothing
that follows it, so showing can be described part by part: `Shows styled text` says that `styled` shows
as `text` whatever follows.
-/

/-- The text behind a control sequence, if a text starts with one: an escape character, a bracket,
digits and the letter `m`. -/
def behindSequence? : List Char → Option (List Char)
  | '\x1b' :: '[' :: rest =>
      match rest.takeWhile Char.isDigit, rest.dropWhile Char.isDigit with
      | _ :: _, 'm' :: behind => some behind
      | _, _ => none
  | _ => none

theorem length_behindSequence?_lt {text behind : List Char}
    (found : behindSequence? text = some behind) : behind.length < text.length := by
  unfold behindSequence? at found
  split at found
  · rename_i rest
    have shorter := (List.dropWhile_suffix (l := rest) Char.isDigit).length_le
    split at found
    · rename_i isBehind
      cases found
      rw [isBehind] at shorter
      simp only [List.length_cons] at shorter ⊢
      omega
    · cases found
  · cases found

/-- The number of a control sequence: some digits. -/
structure IsCode (code : String) : Prop where
  some : code.toList ≠ []
  digits : code.toList.all Char.isDigit = true

theorem isCode_on (style : Style) : IsCode style.on := by
  cases style with
  | color shade => cases shade <;> exact ⟨by decide, by decide⟩
  | _ => exact ⟨by decide, by decide⟩

theorem isCode_off (style : Style) : IsCode style.off := by
  cases style with
  | color shade => exact (⟨by decide, by decide⟩ : IsCode "39")
  | _ => exact ⟨by decide, by decide⟩

theorem toList_sequence_append (code : String) (rest : List Char) :
    (sequence code).toList ++ rest = '\x1b' :: '[' :: (code.toList ++ 'm' :: rest) := by
  simp [sequence]

theorem IsCode.isRun {code : String} (isCode : IsCode code) (rest : List Char) :
    IsRun Char.isDigit code.toList ('m' :: rest) :=
  ⟨List.all_eq_true.mp isCode.digits, by simp⟩

/-- A control sequence ends where its letter does. -/
theorem behindSequence?_sequence {code : String} (isCode : IsCode code) (rest : List Char) :
    behindSequence? ((sequence code).toList ++ rest) = some rest := by
  have run := isCode.isRun rest
  rw [toList_sequence_append, behindSequence?, run.takeWhile_eq, run.dropWhile_eq]
  cases isText : code.toList with
  | nil => exact absurd isText isCode.some
  | cons digit more => rfl

/-- A text with every control sequence deleted. -/
def plain : List Char → List Char
  | [] => []
  | char :: rest =>
      match _ : behindSequence? (char :: rest) with
      | some behind => plain behind
      | none => char :: plain rest
termination_by text => text.length
decreasing_by
  · exact length_behindSequence?_lt ‹_›
  · exact Nat.lt_succ_self _

@[simp] theorem plain_nil : plain [] = [] := by
  rw [plain]

theorem plain_of_sequence {text behind : List Char} (found : behindSequence? text = some behind) :
    plain text = plain behind := by
  cases text with
  | nil => cases found
  | cons char rest =>
      rw [plain]
      split
      · rename_i other same
        rw [found] at same
        cases same
        rfl
      · rename_i missing
        rw [found] at missing
        cases missing

theorem plain_of_none {char : Char} {rest : List Char}
    (missing : behindSequence? (char :: rest) = none) :
    plain (char :: rest) = char :: plain rest := by
  rw [plain]
  split
  · rename_i behind found
    rw [missing] at found
    cases found
  · rfl

theorem behindSequence?_of_ne {char : Char} (noEscape : char ≠ '\x1b') (rest : List Char) :
    behindSequence? (char :: rest) = none := by
  unfold behindSequence?
  split
  · rename_i same
    cases same
    exact absurd rfl noEscape
  · rfl

/-- No escape character is in a text. -/
def Clean (text : List Char) : Prop := '\x1b' ∉ text

instance (text : List Char) : Decidable (Clean text) :=
  inferInstanceAs (Decidable ('\x1b' ∉ text))

theorem plain_append {text : List Char} (clean : Clean text) (rest : List Char) :
    plain (text ++ rest) = text ++ plain rest := by
  induction text with
  | nil => rfl
  | cons char text ih =>
      rw [Clean, List.mem_cons, not_or] at clean
      rw [List.cons_append, plain_of_none (behindSequence?_of_ne (Ne.symm clean.1) _), ih clean.2,
        List.cons_append]

/-- Whatever follows it, `styled` shows as `text`. -/
def Shows (styled text : String) : Prop :=
  ∀ rest, plain (styled.toList ++ rest) = text.toList ++ plain rest

namespace Shows

variable {styled text other behind : String}

theorem plain_eq (shows : Shows styled text) : plain styled.toList = text.toList := by
  have alone := shows []
  rwa [List.append_nil, plain_nil, List.append_nil] at alone

theorem clean (clean : Clean text.toList) : Shows text text := plain_append clean

theorem append (first : Shows styled text) (second : Shows other behind) :
    Shows (styled ++ other) (text ++ behind) := by
  intro rest
  rw [String.toList_append, String.toList_append, List.append_assoc, first, second,
    List.append_assoc]

theorem sequence {code : String} (isCode : IsCode code) : Shows (Style.sequence code) "" := by
  intro rest
  rw [plain_of_sequence (behindSequence?_sequence isCode rest)]
  rfl

theorem apply (style : Style) (shows : Shows styled text) : Shows (style.apply styled) text := by
  have turnedOn := sequence (isCode_on style)
  have turnedOff := sequence (isCode_off style)
  have all := (turnedOn.append shows).append turnedOff
  rwa [String.empty_append, String.append_empty] at all

end Shows

end Style
end LoxTokenizer

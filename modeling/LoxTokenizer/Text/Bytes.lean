namespace LoxTokenizer
namespace Text

/-!
Text measured in bytes of its UTF-8 form.  Text itself stays a list of characters; only its
length and the places where it can be cut are counted in bytes, because that is how positions in
a source are given.
-/

/-- The number of bytes that a text takes in UTF-8. -/
def byteLength : List Char → Nat
  | [] => 0
  | char :: rest => char.utf8Size + byteLength rest

@[simp] theorem byteLength_nil : byteLength [] = 0 := rfl

@[simp] theorem byteLength_cons (char : Char) (rest : List Char) :
    byteLength (char :: rest) = char.utf8Size + byteLength rest := rfl

@[simp] theorem byteLength_append (first second : List Char) :
    byteLength (first ++ second) = byteLength first + byteLength second := by
  induction first with
  | nil => simp
  | cons char rest ih => simp [ih, Nat.add_assoc]

theorem utf8ByteSize_ofList (text : List Char) :
    (String.ofList text).utf8ByteSize = byteLength text := by
  induction text with
  | nil => simp
  | cons char rest ih =>
      rw [← List.singleton_append, String.ofList_append, String.utf8ByteSize_append, ih]
      simp

/-- The bytes of a string are those of its characters. -/
theorem byteLength_toList (text : String) : byteLength text.toList = text.utf8ByteSize := by
  rw [← utf8ByteSize_ofList, String.ofList_toList]

/-- Cuts a text at a byte position.  There is no such cut past the end or inside a character. -/
def splitAtByte? : Nat → List Char → Option (List Char × List Char)
  | 0, text => some ([], text)
  | _ + 1, [] => none
  | position + 1, char :: rest =>
      if char.utf8Size ≤ position + 1 then
        (splitAtByte? (position + 1 - char.utf8Size) rest).map fun (before, after) =>
          (char :: before, after)
      else none

/-- A cut loses nothing, and the part before it is as long as the position says. -/
theorem splitAtByte?_eq_some {position : Nat} {text before after : List Char}
    (cut : splitAtByte? position text = some (before, after)) :
    before ++ after = text ∧ byteLength before = position := by
  induction text generalizing position before after with
  | nil =>
      cases position with
      | zero =>
          cases cut
          exact ⟨rfl, rfl⟩
      | succ position => cases cut
  | cons char rest ih =>
      cases position with
      | zero =>
          cases cut
          exact ⟨rfl, rfl⟩
      | succ position =>
          simp only [splitAtByte?] at cut
          split at cut
          · rename_i fits
            obtain ⟨⟨inner, remaining⟩, innerCut, same⟩ := Option.map_eq_some_iff.mp cut
            cases same
            have parts := ih innerCut
            refine ⟨by simp [parts.1], ?_⟩
            simp only [byteLength_cons, parts.2]
            omega
          · cases cut

/-- The text behind a byte position. -/
def fromByte? (start : Nat) (text : List Char) : Option (List Char) :=
  (splitAtByte? start text).map Prod.snd

/-- The text between two byte positions. -/
def betweenBytes? (start stop : Nat) (text : List Char) : Option (List Char) :=
  (splitAtByte? stop text).bind fun (before, _) => fromByte? start before

/-- Parts of a text are found again by their positions. -/
theorem splitAtByte?_append (before after : List Char) :
    splitAtByte? (byteLength before) (before ++ after) = some (before, after) := by
  induction before with
  | nil =>
      cases after <;> rfl
  | cons char rest ih =>
      obtain ⟨size, positive⟩ : ∃ size, byteLength (char :: rest) = size + 1 :=
        ⟨byteLength (char :: rest) - 1, by
          have := char.utf8Size_pos
          simp only [byteLength_cons]
          omega⟩
      have fits : char.utf8Size ≤ size + 1 := by
        rw [← positive, byteLength_cons]
        omega
      have remaining : size + 1 - char.utf8Size = byteLength rest := by
        rw [← positive, byteLength_cons]
        omega
      rw [positive, List.cons_append, splitAtByte?, if_pos fits, remaining, ih]
      rfl

end Text
end LoxTokenizer

import LoxTokenizer.Proofs.Json.Leaf

namespace LoxTokenizer
namespace Json

/-!
# Reading what has been written

The text of a value reads back to the value, up to numbers that are not finite, which JSON writes as
null.  Leaves are lexemes, and the machine takes a text lexeme by lexeme, so the proof goes through
the value as the text does: in front of a value, its text brings the machine behind it.
-/

mutual

/-- What the text of a value tells: numbers that are not finite have none. -/
def written : Json → Json
  | .null => .null
  | .natural value => .natural value
  | .double value => if value.isFinite then .double value else .null
  | .string text => .string text
  | .array items => .array (writtenItems items)
  | .object fields => .object (writtenFields fields)

def writtenItems : List Json → List Json
  | [] => []
  | item :: rest => item.written :: writtenItems rest

def writtenFields : List (String × Json) → List (String × Json)
  | [] => []
  | (name, value) :: rest => (name, value.written) :: writtenFields rest

end

/-! ## The steps of the machine -/

/-- Blanks in front of a lexeme are passed over. -/
theorem readFrom_blank (state : State) {gap : List Char} (blank : ∀ char ∈ gap, isBlank char = true)
    (text : List Char) : readFrom state (gap ++ text) = readFrom state text := by
  rw [readFrom, readFrom, List.dropWhile_append_of_pos blank]

theorem isBlank_of_lexeme? {first : Char} {more behind : List Char} {lexeme : Lexeme}
    (found : lexeme? (first :: more) = some (lexeme, behind)) : isBlank first = false := by
  rw [isBlank, decide_eq_false_iff_not]
  intro blank
  simp only [List.mem_cons, List.not_mem_nil, or_false] at blank
  rcases blank with rfl | rfl | rfl | rfl <;> cases found

/-- A lexeme is a step. -/
theorem readFrom_lexeme (state : State) {text behind : List Char} {lexeme : Lexeme}
    (found : lexeme? text = some (lexeme, behind)) :
    readFrom state text = (state.step? lexeme).bind fun next => readFrom next behind := by
  cases text with
  | nil => cases found
  | cons first more =>
      have noBlank : (first :: more).dropWhile isBlank = first :: more :=
        List.dropWhile_cons_of_neg (by simp [isBlank_of_lexeme? found])
      rw [readFrom, noBlank, if_neg (by simp)]
      split
      · rename_i missing
        rw [found] at missing
        cases missing
      · rename_i other stop same
        rw [found] at same
        cases same
        rfl

theorem isBlank_lineBreak (depth : Nat) : ∀ char ∈ lineBreak depth, isBlank char = true := by
  intro char member
  rcases List.mem_cons.mp member with rfl | space
  · rfl
  · rw [List.eq_of_mem_replicate space]
    rfl

theorem apart_lineBreak (depth : Nat) (rest : List Char) : Apart (lineBreak depth ++ rest) := by
  intro char starts
  cases starts
  rfl

theorem apart_comma (rest : List Char) : Apart (',' :: rest) := by
  intro char starts
  cases starts
  rfl

section

variable (around : List Frame) (depth : Nat) (rest : List Char)

theorem readFrom_openArray :
    readFrom (.beforeValue around) ('[' :: rest) =
      readFrom (.beforeValue (.array [] :: around)) rest := by
  rw [readFrom_lexeme _ rfl]
  simp [State.step?]

theorem readFrom_openObject :
    readFrom (.beforeValue around) ('\x7b' :: rest) = readFrom (.beforeName [] around) rest := by
  rw [readFrom_lexeme _ rfl]
  simp [State.step?]

variable (value : Json)

theorem readFrom_nextItem (items : List Json) :
    readFrom (.behindValue value (.array items :: around)) (',' :: (lineBreak depth ++ rest)) =
      readFrom (.beforeValue (.array (value :: items) :: around)) rest := by
  rw [readFrom_lexeme _ rfl]
  exact readFrom_blank _ (isBlank_lineBreak depth) rest

theorem readFrom_closeArray (items : List Json) :
    readFrom (.behindValue value (.array items :: around)) (lineBreak depth ++ ']' :: rest) =
      readFrom (.behindValue (.array (value :: items).reverse) around) rest := by
  rw [readFrom_blank _ (isBlank_lineBreak depth), readFrom_lexeme _ rfl]
  rfl

variable (fields : List (String × Json)) (name : String)

/-- The name of a field and the colon behind it. -/
theorem readFrom_name :
    readFrom (.beforeName fields around) (quoted name ++ ':' :: ' ' :: rest) =
      readFrom (.beforeValue (.object fields name :: around)) rest := by
  have named : State.step? (.beforeName fields around) (.text name) =
      some (.behindName fields name around) := by
    simp [State.step?]
  have space : ∀ char ∈ [' '], isBlank char = true :=
    List.forall_mem_singleton.mpr rfl
  rw [readFrom_lexeme _ (lexeme?_quoted name _), named, Option.bind_some, readFrom_lexeme _ rfl]
  exact readFrom_blank _ space rest

theorem readFrom_nextField :
    readFrom (.behindValue value (.object fields name :: around)) (',' :: (lineBreak depth ++ rest)) =
      readFrom (.beforeName ((name, value) :: fields) around) rest := by
  rw [readFrom_lexeme _ rfl]
  exact readFrom_blank _ (isBlank_lineBreak depth) rest

theorem readFrom_closeObject :
    readFrom (.behindValue value (.object fields name :: around)) (lineBreak depth ++ '\x7d' :: rest) =
      readFrom (.behindValue (.object ((name, value) :: fields).reverse) around) rest := by
  rw [readFrom_blank _ (isBlank_lineBreak depth), readFrom_lexeme _ rfl]
  rfl

end

/-! ## Whole values -/

theorem separated_cons_cons (separator part next : List Char) (parts : List (List Char)) :
    separated separator (part :: next :: parts) =
      part ++ separator ++ separated separator (next :: parts) := by
  rw [separated]
  exact List.cons_ne_nil _ _

theorem bracketed_cons (opening closing : Char) (depth : Nat) (part : List Char)
    (parts : List (List Char)) (rest : List Char) :
    bracketed opening closing depth (part :: parts) ++ rest =
      opening :: (lineBreak (depth + 1) ++
        (separated (',' :: lineBreak (depth + 1)) (part :: parts) ++
          (lineBreak depth ++ closing :: rest))) := by
  simp [bracketed]

mutual

/-- In front of a value, its text brings the machine behind it. -/
theorem readFrom_prettyText (depth : Nat) (around : List Frame) (value : Json) {rest : List Char}
    (apart : Apart rest) :
    readFrom (.beforeValue around) (prettyText depth value ++ rest) =
      readFrom (.behindValue value.written around) rest := by
  match value with
  | .null => exact readFrom_lexeme _ (lexeme?_null rest)
  | .natural value => exact readFrom_lexeme _ (lexeme?_natural value apart)
  | .double value => exact readFrom_lexeme _ (lexeme?_numberText value apart)
  | .string text => exact readFrom_lexeme _ (lexeme?_quoted text rest)
  | .array [] =>
      change readFrom (.beforeValue around) ('[' :: ']' :: rest) = _
      rw [readFrom_openArray, readFrom_lexeme _ rfl]
      rfl
  | .array (item :: items) =>
      have later := readFrom_prettyItems (depth + 1) depth [] around (item :: items)
        (List.cons_ne_nil _ _) rest
      rw [prettyText, prettyItems, bracketed_cons, ← prettyItems, readFrom_openArray,
        readFrom_blank _ (isBlank_lineBreak (depth + 1)), later]
      rfl
  | .object [] =>
      change readFrom (.beforeValue around) ('\x7b' :: '\x7d' :: rest) = _
      rw [readFrom_openObject, readFrom_lexeme _ rfl]
      rfl
  | .object ((name, value) :: fields) =>
      have later := readFrom_prettyFields (depth + 1) depth [] around ((name, value) :: fields)
        (List.cons_ne_nil _ _) rest
      rw [prettyText, prettyFields, bracketed_cons, ← prettyFields, readFrom_openObject,
        readFrom_blank _ (isBlank_lineBreak (depth + 1)), later]
      rfl

/-- In front of the items that an array still has, they and its end bring the machine behind it. -/
theorem readFrom_prettyItems (depth outer : Nat) (done : List Json) (around : List Frame)
    (items : List Json) (some : items ≠ []) (rest : List Char) :
    readFrom (.beforeValue (.array done :: around))
        (separated (',' :: lineBreak depth) (prettyItems depth items) ++
          (lineBreak outer ++ ']' :: rest)) =
      readFrom (.behindValue (.array (done.reverse ++ writtenItems items)) around) rest := by
  match items with
  | [] => exact absurd rfl some
  | [item] =>
      rw [prettyItems, prettyItems, separated,
        readFrom_prettyText depth (.array done :: around) item (apart_lineBreak _ _),
        readFrom_closeArray, List.reverse_cons]
      rfl
  | item :: next :: items =>
      have later := readFrom_prettyItems depth outer (item.written :: done) around (next :: items)
        (List.cons_ne_nil _ _) rest
      rw [prettyItems, prettyItems, separated_cons_cons, ← prettyItems]
      simp only [List.append_assoc, List.cons_append]
      rw [readFrom_prettyText depth (.array done :: around) item (apart_comma _), readFrom_nextItem,
        later, List.reverse_cons, List.append_assoc]
      rfl

/-- In front of the fields that an object still has, they and its end bring the machine behind it. -/
theorem readFrom_prettyFields (depth outer : Nat) (done : List (String × Json))
    (around : List Frame) (fields : List (String × Json)) (some : fields ≠ []) (rest : List Char) :
    readFrom (.beforeName done around)
        (separated (',' :: lineBreak depth) (prettyFields depth fields) ++
          (lineBreak outer ++ '\x7d' :: rest)) =
      readFrom (.behindValue (.object (done.reverse ++ writtenFields fields)) around) rest := by
  match fields with
  | [] => exact absurd rfl some
  | [(name, value)] =>
      rw [prettyFields, prettyFields, separated]
      simp only [List.append_assoc, List.cons_append]
      rw [readFrom_name,
        readFrom_prettyText depth (.object done name :: around) value (apart_lineBreak _ _),
        readFrom_closeObject, List.reverse_cons]
      rfl
  | (name, value) :: (other, next) :: fields =>
      have later := readFrom_prettyFields depth outer ((name, value.written) :: done) around
        ((other, next) :: fields) (List.cons_ne_nil _ _) rest
      rw [prettyFields, prettyFields, separated_cons_cons, ← prettyFields]
      simp only [List.append_assoc, List.cons_append]
      rw [readFrom_name,
        readFrom_prettyText depth (.object done name :: around) value (apart_comma _),
        readFrom_nextField, later, List.reverse_cons, List.append_assoc]
      rfl

end

/-- The text of a value reads back. -/
theorem read?_pretty (value : Json) : read? value.pretty = some value.written := by
  have apart : Apart [] := by
    intro char starts
    cases starts
  have read := readFrom_prettyText 0 [] value apart
  rw [List.append_nil] at read
  rw [read?, pretty, String.toList_ofList, read, readFrom]
  rfl

end Json
end LoxTokenizer

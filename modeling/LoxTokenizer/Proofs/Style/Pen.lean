import LoxTokenizer.Proofs.Style.Plain

namespace LoxTokenizer

open Style

/-!
# The pen behind styled text

A terminal writes every character with a pen.  A control sequence writes nothing; it changes the pen
for the characters behind it, until another sequence changes it again.  `Pen.written` lists the
characters that a text shows, each with its pen; their pens left out, they are the plain text.

Writing goes part by part like showing: `Writes pen styled marked after` says what `styled` writes
when it is met with one pen, and with which pen it leaves off.
-/

structure Pen where
  color : Option Color
  bold : Bool
  faint : Bool
  italic : Bool
  deriving DecidableEq

namespace Pen

/-- The pen of a text without styling. -/
def plain : Pen := ⟨none, false, false, false⟩

/-- The pen with one more style. -/
def styled (pen : Pen) : Style → Pen
  | .color shade => { pen with color := some shade }
  | .bold => { pen with bold := true }
  | .dimmed => { pen with faint := true }
  | .italic => { pen with italic := true }

/-- The styles that a control sequence can turn on. -/
def styles : List Style :=
  [.bold, .dimmed, .italic, .color .red, .color .green, .color .yellow, .color .blue,
    .color .magenta, .color .cyan, .color .white, .color .brightYellow, .color .brightCyan]

/-- The pen behind the control sequence with a number: zero gives up every style, 39 the colour, and
a number that is none of these and turns nothing on leaves the pen as it is. -/
def turned (pen : Pen) (code : String) : Pen :=
  if code = "0" then plain
  else if code = "39" then { pen with color := none }
  else
    match styles.find? (fun style => style.on == code) with
    | some style => pen.styled style
    | none => pen

theorem turned_on (pen : Pen) (style : Style) : pen.turned style.on = pen.styled style := by
  cases style with
  | color shade => cases shade <;> rfl
  | _ => rfl

/-- The number of the control sequence that a text starts with. -/
def codeOf (text : List Char) : String := String.ofList ((text.drop 2).takeWhile Char.isDigit)

theorem codeOf_sequence {code : String} (isCode : IsCode code) (rest : List Char) :
    codeOf ((sequence code).toList ++ rest) = code := by
  have run := isCode.isRun rest
  rw [toList_sequence_append, codeOf, List.drop_succ_cons, List.drop_succ_cons, List.drop_zero,
    run.takeWhile_eq, String.ofList_toList]

/-- The characters that a text shows, each with the pen that it is written with. -/
def written (pen : Pen) : List Char → List (Char × Pen)
  | [] => []
  | char :: rest =>
      match _ : behindSequence? (char :: rest) with
      | some behind => written (pen.turned (codeOf (char :: rest))) behind
      | none => (char, pen) :: written pen rest
termination_by text => text.length
decreasing_by
  · exact length_behindSequence?_lt ‹_›
  · exact Nat.lt_succ_self _

theorem written_nil (pen : Pen) : written pen [] = [] := by
  rw [written]

theorem written_of_sequence (pen : Pen) {text behind : List Char}
    (found : behindSequence? text = some behind) :
    written pen text = written (pen.turned (codeOf text)) behind := by
  cases text with
  | nil => cases found
  | cons char rest =>
      rw [written]
      split
      · rename_i other same
        rw [found] at same
        cases same
        rfl
      · rename_i missing
        rw [found] at missing
        cases missing

theorem written_of_none (pen : Pen) {char : Char} {rest : List Char}
    (missing : behindSequence? (char :: rest) = none) :
    written pen (char :: rest) = (char, pen) :: written pen rest := by
  rw [written]
  split
  · rename_i behind found
    rw [missing] at found
    cases found
  · rfl

/-- What is written is what the text shows. -/
theorem map_fst_written (pen : Pen) (text : List Char) :
    (written pen text).map Prod.fst = Style.plain text := by
  induction text using Style.plain.induct generalizing pen with
  | case1 => rw [written_nil, plain_nil, List.map_nil]
  | case2 char rest behind found ih =>
      rw [written_of_sequence pen found, plain_of_sequence found, ih]
  | case3 char rest missing ih =>
      rw [written_of_none pen missing, List.map_cons, ih, plain_of_none missing]

end Pen

/-- Met with a pen, `styled` writes the characters `marked` and leaves off with the pen `after`,
whatever follows it. -/
def Writes (pen : Pen) (styled : String) (marked : List (Char × Pen)) (after : Pen) : Prop :=
  ∀ rest, pen.written (styled.toList ++ rest) = marked ++ after.written rest

namespace Writes

variable {pen middle after : Pen} {styled other : String} {marked behind : List (Char × Pen)}

theorem written_eq (writes : Writes pen styled marked after) :
    pen.written styled.toList = marked := by
  have alone := writes []
  rwa [List.append_nil, Pen.written_nil, List.append_nil] at alone

theorem clean (pen : Pen) {text : String} (clean : Clean text.toList) :
    Writes pen text (text.toList.map (·, pen)) pen := by
  intro rest
  generalize text.toList = chars at clean
  induction chars with
  | nil => rfl
  | cons char chars ih =>
      rw [Clean, List.mem_cons, not_or] at clean
      rw [List.cons_append, Pen.written_of_none pen (behindSequence?_of_ne (Ne.symm clean.1) _),
        ih clean.2, List.map_cons, List.cons_append]

theorem ofList (pen : Pen) {text : List Char} (isClean : Clean text) :
    Writes pen (String.ofList text) (text.map (·, pen)) pen := by
  have writes := @clean pen (String.ofList text)
  rw [String.toList_ofList] at writes
  exact writes isClean

theorem append (first : Writes pen styled marked middle) (second : Writes middle other behind after) :
    Writes pen (styled ++ other) (marked ++ behind) after := by
  intro rest
  rw [String.toList_append, List.append_assoc, first, second, List.append_assoc]

theorem sequence (pen : Pen) {code : String} (isCode : IsCode code) :
    Writes pen (Style.sequence code) [] (pen.turned code) := by
  intro rest
  rw [Pen.written_of_sequence pen (behindSequence?_sequence isCode rest),
    Pen.codeOf_sequence isCode, List.nil_append]

/-- A style holds for the text that it is put on, and is turned off behind it. -/
theorem apply (style : Style) (writes : Writes (pen.styled style) styled marked after) :
    Writes pen (style.apply styled) marked (after.turned style.off) := by
  have turnedOn := sequence pen (isCode_on style)
  rw [Pen.turned_on] at turnedOn
  have all := (turnedOn.append writes).append (sequence after (isCode_off style))
  rwa [List.nil_append, List.append_nil] at all

end Writes

end LoxTokenizer

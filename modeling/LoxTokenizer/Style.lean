namespace LoxTokenizer

/-!
Terminal styling: a text between the control sequence that turns a style on and the one that
turns it off again.
-/

inductive Color where
  | red
  | green
  | yellow
  | blue
  | magenta
  | cyan
  | white
  | brightYellow
  | brightCyan
  deriving DecidableEq

namespace Color

def code : Color → String
  | .red => "31"
  | .green => "32"
  | .yellow => "33"
  | .blue => "34"
  | .magenta => "35"
  | .cyan => "36"
  | .white => "37"
  | .brightYellow => "93"
  | .brightCyan => "96"

end Color

/-- A way to show text. -/
inductive Style where
  | color (shade : Color)
  | bold
  | dimmed
  | italic
  deriving DecidableEq

namespace Style

/-- The number that turns a style on. -/
def on : Style → String
  | .color shade => shade.code
  | .bold => "1"
  | .dimmed => "2"
  | .italic => "3"

/-- The number that turns a style off. -/
def off : Style → String
  | .color _ => "39"
  | _ => "0"

/-- The control sequence with a number. -/
def sequence (code : String) : String := "\x1b[" ++ code ++ "m"

def apply (style : Style) (text : String) : String :=
  sequence style.on ++ text ++ sequence style.off

end Style

def colored (color : Color) (text : String) : String := (Style.color color).apply text

/-- A text in a colour, with every style turned off behind it rather than the colour alone. -/
def tinted (color : Color) (text : String) : String :=
  Style.sequence color.code ++ text ++ Style.sequence "0"

def bold (text : String) : String := Style.bold.apply text

theorem bold_eq (text : String) : bold text = "\x1b[1m" ++ text ++ "\x1b[0m" := rfl

def dimmed (text : String) : String := Style.dimmed.apply text

theorem dimmed_eq (text : String) : dimmed text = "\x1b[2m" ++ text ++ "\x1b[0m" := rfl

/-- A text in bold face and in a colour, the colour being the inner of the two. -/
def boldColored (color : Color) (text : String) : String := bold (colored color text)

end LoxTokenizer

import LoxTokenizer.Number.Double

namespace LoxTokenizer
namespace Token

/-!
What a token can be.  A `Kind` carries the decoded value of strings and numbers; a `Tag` is the
same without the value.  Punctuators and keywords are types of their own, so that their spellings
can be listed apart from the tokens that have no fixed one.
-/

inductive Punctuator where
  | leftParen
  | rightParen
  | leftBrace
  | rightBrace
  | comma
  | dot
  | minus
  | plus
  | semicolon
  | slash
  | star
  | bang
  | bangEqual
  | equal
  | equalEqual
  | greater
  | greaterEqual
  | less
  | lessEqual
  deriving DecidableEq

inductive Keyword where
  | andWord
  | classWord
  | elseWord
  | falseWord
  | forWord
  | funWord
  | ifWord
  | nilWord
  | orWord
  | printWord
  | returnWord
  | superWord
  | thisWord
  | trueWord
  | varWord
  | whileWord
  deriving DecidableEq

/-- What a token is, with the decoded value of strings and numbers. -/
inductive Kind where
  | punctuator (mark : Punctuator)
  | keyword (word : Keyword)
  | identifier
  | string (text : String)
  | number (value : Number.Double)
  | endOfInput
  deriving DecidableEq

/-- What a token is, without its value. -/
inductive Tag where
  | punctuator (mark : Punctuator)
  | keyword (word : Keyword)
  | identifier
  | string
  | number
  | endOfInput
  deriving DecidableEq

namespace Punctuator

/-- How a mark is written in source text. -/
def spelling : Punctuator → String
  | .leftParen => "("
  | .rightParen => ")"
  | .leftBrace => "\x7b"
  | .rightBrace => "\x7d"
  | .comma => ","
  | .dot => "."
  | .minus => "-"
  | .plus => "+"
  | .semicolon => ";"
  | .slash => "/"
  | .star => "*"
  | .bang => "!"
  | .bangEqual => "!="
  | .equal => "="
  | .equalEqual => "=="
  | .greater => ">"
  | .greaterEqual => ">="
  | .less => "<"
  | .lessEqual => "<="

/-- The name of a mark in token data. -/
def name : Punctuator → String
  | .leftParen => "LeftParen"
  | .rightParen => "RightParen"
  | .leftBrace => "LeftBrace"
  | .rightBrace => "RightBrace"
  | .comma => "Comma"
  | .dot => "Dot"
  | .minus => "Minus"
  | .plus => "Plus"
  | .semicolon => "Semicolon"
  | .slash => "Slash"
  | .star => "Star"
  | .bang => "Bang"
  | .bangEqual => "BangEqual"
  | .equal => "Equal"
  | .equalEqual => "EqualEqual"
  | .greater => "Greater"
  | .greaterEqual => "GreaterEqual"
  | .less => "Less"
  | .lessEqual => "LessEqual"

/-- The label of a mark in token listings. -/
def label : Punctuator → String
  | .leftParen => "LEFT_PAREN"
  | .rightParen => "RIGHT_PAREN"
  | .leftBrace => "LEFT_BRACE"
  | .rightBrace => "RIGHT_BRACE"
  | .comma => "COMMA"
  | .dot => "DOT"
  | .minus => "MINUS"
  | .plus => "PLUS"
  | .semicolon => "SEMICOLON"
  | .slash => "SLASH"
  | .star => "STAR"
  | .bang => "BANG"
  | .bangEqual => "BANG_EQUAL"
  | .equal => "EQUAL"
  | .equalEqual => "EQUAL_EQUAL"
  | .greater => "GREATER"
  | .greaterEqual => "GREATER_EQUAL"
  | .less => "LESS"
  | .lessEqual => "LESS_EQUAL"

def all : List Punctuator :=
  [.leftParen, .rightParen, .leftBrace, .rightBrace, .comma, .dot, .minus, .plus, .semicolon,
    .slash, .star, .bang, .bangEqual, .equal, .equalEqual, .greater, .greaterEqual, .less,
    .lessEqual]

theorem mem_all (mark : Punctuator) : mark ∈ all := by
  cases mark <;> decide

/-- Opening parentheses and braces. -/
def isOpening : Punctuator → Bool
  | .leftParen | .leftBrace => true
  | _ => false

/-- Closing parentheses and braces. -/
def isClosing : Punctuator → Bool
  | .rightParen | .rightBrace => true
  | _ => false

end Punctuator

namespace Keyword

def spelling : Keyword → String
  | .andWord => "and"
  | .classWord => "class"
  | .elseWord => "else"
  | .falseWord => "false"
  | .forWord => "for"
  | .funWord => "fun"
  | .ifWord => "if"
  | .nilWord => "nil"
  | .orWord => "or"
  | .printWord => "print"
  | .returnWord => "return"
  | .superWord => "super"
  | .thisWord => "this"
  | .trueWord => "true"
  | .varWord => "var"
  | .whileWord => "while"

def name : Keyword → String
  | .andWord => "And"
  | .classWord => "Class"
  | .elseWord => "Else"
  | .falseWord => "False"
  | .forWord => "For"
  | .funWord => "Fun"
  | .ifWord => "If"
  | .nilWord => "Nil"
  | .orWord => "Or"
  | .printWord => "Print"
  | .returnWord => "Return"
  | .superWord => "Super"
  | .thisWord => "This"
  | .trueWord => "True"
  | .varWord => "Var"
  | .whileWord => "While"

def label : Keyword → String
  | .andWord => "AND"
  | .classWord => "CLASS"
  | .elseWord => "ELSE"
  | .falseWord => "FALSE"
  | .forWord => "FOR"
  | .funWord => "FUN"
  | .ifWord => "IF"
  | .nilWord => "NIL"
  | .orWord => "OR"
  | .printWord => "PRINT"
  | .returnWord => "RETURN"
  | .superWord => "SUPER"
  | .thisWord => "THIS"
  | .trueWord => "TRUE"
  | .varWord => "VAR"
  | .whileWord => "WHILE"

def all : List Keyword :=
  [.andWord, .classWord, .elseWord, .falseWord, .forWord, .funWord, .ifWord, .nilWord, .orWord,
    .printWord, .returnWord, .superWord, .thisWord, .trueWord, .varWord, .whileWord]

theorem mem_all (word : Keyword) : word ∈ all := by
  cases word <;> decide

end Keyword

namespace Tag

def name : Tag → String
  | .punctuator mark => mark.name
  | .keyword word => word.name
  | .identifier => "Identifier"
  | .string => "String"
  | .number => "Number"
  | .endOfInput => "Eof"

def label : Tag → String
  | .punctuator mark => mark.label
  | .keyword word => word.label
  | .identifier => "IDENTIFIER"
  | .string => "STRING"
  | .number => "NUMBER"
  | .endOfInput => "EOF"

def all : List Tag :=
  Punctuator.all.map .punctuator ++ Keyword.all.map .keyword ++
    [.identifier, .string, .number, .endOfInput]

theorem mem_all (tag : Tag) : tag ∈ all := by
  cases tag with
  | punctuator mark => simp [all, mark.mem_all]
  | keyword word => simp [all, word.mem_all]
  | _ => simp [all]

end Tag

namespace Kind

def tag : Kind → Tag
  | .punctuator mark => .punctuator mark
  | .keyword word => .keyword word
  | .identifier => .identifier
  | .string _ => .string
  | .number _ => .number
  | .endOfInput => .endOfInput

def isKeyword : Kind → Bool
  | .keyword _ => true
  | _ => false

/-- Whether a kind carries a decoded value. -/
def isLiteral : Kind → Bool
  | .string _ | .number _ => true
  | _ => false

/-- Equality of kinds, number values compared as numbers rather than by their bits. -/
def sameKind : Kind → Kind → Bool
  | .number x, .number y => x.sameNumber y
  | first, second => first == second

end Kind

end Token
end LoxTokenizer

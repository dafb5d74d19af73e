namespace LoxTokenizer

/-!
What can be wrong with a source text, what a scan tells about itself, and the places that errors
are reported to.  A scan never fails: it hands each error to a sink and goes on.
-/

/-- Something in a source text that makes no token. -/
inductive ScanError where
  /-- A character that no token starts with. -/
  | unexpectedCharacter (line : Nat) (character : Char)
  /-- A string without a closing quote; the line is the one where the input ends. -/
  | unterminatedString (line : Nat)
  deriving DecidableEq

namespace ScanError

def line : ScanError → Nat
  | .unexpectedCharacter line _ => line
  | .unterminatedString line => line

def message : ScanError → String
  | .unexpectedCharacter _ _ => "Unexpected Character"
  | .unterminatedString _ => "Unterminated string"

def character? : ScanError → Option Char
  | .unexpectedCharacter _ character => some character
  | .unterminatedString _ => none

def display (error : ScanError) : String :=
  "[line " ++ toString error.line ++ "] Error: " ++ error.message

def isUnterminated : ScanError → Bool
  | .unterminatedString _ => true
  | .unexpectedCharacter _ _ => false

end ScanError

/-- What a scan tells about itself while it runs. -/
inductive ScanEvent where
  | scanError (error : ScanError)
  /-- The end of the input was reached for the first time. -/
  | scanComplete (tokens lines : Nat)
  deriving DecidableEq

/-- Somewhere to report errors to. -/
class ErrorSink (σ : Type) where
  report : σ → ScanError → σ

def reportAll {σ : Type} [ErrorSink σ] (sink : σ) (errors : List ScanError) : σ :=
  errors.foldl ErrorSink.report sink

/-- A sink that keeps every error, in the order of the reports. -/
structure ErrorLog where
  errors : List ScanError
  deriving DecidableEq

namespace ErrorLog

def empty : ErrorLog := ⟨[]⟩

def hadError (log : ErrorLog) : Bool := !log.errors.isEmpty

def size (log : ErrorLog) : Nat := log.errors.length

/-- Forgets every error. -/
def clear (_log : ErrorLog) : ErrorLog := empty

instance : ErrorSink ErrorLog where
  report log error := ⟨log.errors ++ [error]⟩

/-- Reporting several errors puts them behind the earlier ones. -/
@[simp] theorem errors_reportAll (log : ErrorLog) (errors : List ScanError) :
    (reportAll log errors).errors = log.errors ++ errors := by
  induction errors generalizing log with
  | nil => simp [reportAll]
  | cons error rest ih =>
      have step := ih (ErrorSink.report log error)
      simpa [reportAll, ErrorSink.report] using step

end ErrorLog

/-- A list of lines and messages is a sink too: what a listener was told, in order. -/
structure Notices where
  told : List (Nat × String)
  deriving DecidableEq

instance : ErrorSink Notices where
  report notices error := ⟨notices.told ++ [(error.line, error.message)]⟩

/-- A listener is told the line and the message of each error: where it has got to by listening, and
where being told takes it. -/
structure Listener (α : Type) where
  state : α
  hear : α → Nat → String → α

instance {α : Type} : ErrorSink (Listener α) where
  report listener error :=
    { listener with state := listener.hear listener.state error.line error.message }

/-- A sink that is lent or kept in a box: whoever holds it hands each error on to it. -/
structure Handle (σ : Type) where
  held : σ

instance {σ : Type} [ErrorSink σ] : ErrorSink (Handle σ) where
  report handle error := ⟨ErrorSink.report handle.held error⟩

end LoxTokenizer

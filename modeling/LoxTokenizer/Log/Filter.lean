import LoxTokenizer.Log.Directive

namespace LoxTokenizer
namespace Log

/-!
Which records are written.  A filter is a list of directives separated by commas, and of those that
speak of a record the one that says most decides: the one with the longest target that the
record's target starts with, then one that asks for a field, and the one with the greatest name
of a field.  Of directives that say the same the last decides.
-/

structure Filter where
  directives : List Directive
  deriving DecidableEq

namespace Filter

def splitAtCommas : List Char → List (List Char)
  | [] => [[]]
  | ',' :: rest => [] :: splitAtCommas rest
  | char :: rest =>
      match splitAtCommas rest with
      | [] => [[char]]
      | part :: parts => (char :: part) :: parts

/-- The filter without directives lets errors through, and nothing else. -/
def errors : Filter := ⟨[⟨Severity.error.verbosity, none, false, none⟩]⟩

def warnings : Filter := ⟨[⟨Severity.warn.verbosity, none, false, none⟩]⟩

/-- Reads a filter; one directive that cannot be read spoils all of it. -/
def parse? (text : String) : Option Filter :=
  let parts := (splitAtCommas text.toList).filter fun part => !part.isEmpty
  (parts.mapM Directive.parse?).map fun directives =>
    if directives.isEmpty then errors else ⟨directives⟩

/-- The directive that decides about a record. -/
def deciding? (filter : Filter) (record : Record) : Option Directive :=
  (filter.directives.filter fun directive => directive.appliesTo record).foldl
    (fun best directive =>
      match best with
      | none => some directive
      | some earlier =>
          if directive.atLeastAsSpecific earlier then some directive else some earlier)
    none

def enables (filter : Filter) (record : Record) : Bool :=
  match filter.deciding? record with
  | some directive => record.severity.verbosity ≤ directive.verbosity
  | none => false

end Filter

/-- Who writes records: a filter, and the time stamp to write in front of them. -/
structure Logger where
  filter : Filter
  stamp : String

namespace Logger

/-- The line of a record, or nothing if the filter holds it back. -/
def write (logger : Logger) (record : Record) : String :=
  if logger.filter.enables record then record.line logger.stamp else ""

def writeAll (logger : Logger) (records : List Record) : String :=
  records.foldr (fun record lines => logger.write record ++ lines) ""

end Logger

end Log
end LoxTokenizer

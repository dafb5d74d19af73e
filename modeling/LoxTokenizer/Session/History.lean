import LoxTokenizer.Files
import LoxTokenizer.Log.Record
import LoxTokenizer.Text.Lines

namespace LoxTokenizer
namespace Session

/-!
The history of earlier sessions: where it is kept, and what there is to say about reading it.  The
entries themselves only serve line editing on a terminal, so they are not kept here.
-/

/-- The targets of the session's own records and of its line reader's. -/
def sessionTarget : String := "lox::repl"

def readerTarget : String := "rustyline"

/-- A record of the line reader.  It also tells which place in the reader made it. -/
def readerRecord (severity : Log.Severity) (text : String) : Log.Record :=
  { target := readerTarget
    severity
    text
    hiddenFields := ["log.target", "log.module_path", "log.file", "log.line"] }

namespace History

/-- The directory of data, from the variable for it if that holds an absolute path, else below the
home directory. -/
def dataDirectory (home : String) (setting? : Option String) : String :=
  match setting? with
  | some path => if FileTree.isAbsolute path then path else FileTree.join home ".local/share"
  | none => FileTree.join home ".local/share"

/-- The directory of the history below that of data. -/
def directory (dataPath : String) : String := FileTree.join dataPath "lox"

def filePath (dataPath : String) : String := FileTree.join (directory dataPath) ".lox_history"

/-- The first line of a history whose entries escape line feeds and backslashes. -/
def escapedMark : String := "#V2"

/-- Whether every backslash of a line is followed by an `n` or by another backslash. -/
def isEscaped : List Char → Bool
  | [] => true
  | '\\' :: 'n' :: rest => isEscaped rest
  | '\\' :: '\\' :: rest => isEscaped rest
  | '\\' :: _ => false
  | _ :: rest => isEscaped rest

/-- What was found while reading a history: lines that are badly escaped, and whether reading came
to its end. -/
structure Reading where
  badLines : List String
  failure : Option FileFailure

/-- Reads the lines behind the first. -/
def readLines (escaped : Bool) : List (Option (List Char)) → Reading
  | [] => ⟨[], none⟩
  | none :: _ => ⟨[], some .notText⟩
  | some lineText :: rest =>
      let line := (Text.Line.ofText lineText).content
      let later := readLines escaped rest
      if escaped && !isEscaped line then
        { later with badLines := String.ofList line :: later.badLines }
      else later

/-- Reads a history.  Its first line says whether its entries are escaped. -/
def read (content : ByteArray) : Reading :=
  match Text.inputLines content with
  | [] => ⟨[], none⟩
  | none :: _ => ⟨[], some .notText⟩
  | some first :: rest =>
      readLines (String.ofList (Text.Line.ofText first).content == escapedMark) rest

def directoryRecord (path : String) (failure : FileFailure) : Log.Record :=
  { target := sessionTarget
    severity := .warn
    text := "Could not create history directory " ++ path ++ ": " ++ failure.message }

def loadRecord (path : String) (failure : FileFailure) : Log.Record :=
  { target := sessionTarget
    severity := .debug
    text := "No history loaded from " ++ path ++ ": " ++ failure.message }

def badLineRecord (line : String) : Log.Record :=
  readerRecord .warn ("bad escaped line: " ++ line)

/-- Prepares the history: makes its directory and reads its file.  Returned are the records of
what went wrong and the files as they are then. -/
def prepare (files : FileTree) (dataPath : String) : List Log.Record × FileTree :=
  let (present, prevented) := files.makeDirectory (directory dataPath)
  let reading : Reading :=
    match present.readBytes (filePath dataPath) with
    | .error failure => ⟨[], some failure⟩
    | .ok content => read content
  ((prevented.map (directoryRecord (directory dataPath))).toList ++
    reading.badLines.map badLineRecord ++
    (reading.failure.map (loadRecord (filePath dataPath))).toList, present)

end History

end Session
end LoxTokenizer

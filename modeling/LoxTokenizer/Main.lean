import LoxTokenizer.Program
import Std.Time.Format

/-!
The command line.  It gathers what lies around a run, has the run computed, and writes what came
out of it.
-/

namespace LoxTokenizer
namespace Main

/-- What is found at a path: the bytes of a file, a directory, or nothing that can be read. -/
inductive Found where
  | file (content : ByteArray)
  | directory
  | nothing

def look (path : String) : IO Found := do
  try
    return .file (← IO.FS.readBinFile path)
  catch failure =>
    match failure with
    | .inappropriateType _ 21 _ => return .directory
    | _ => return .nothing

/-- The path made of parts, from the root. -/
def fromRoot (parts : List String) : String := "/" ++ String.intercalate "/" parts

/-- Looks at a path and at everything on its way, and adds what is found to a tree. -/
def observe (tree : FileTree) (path : String) : IO FileTree := do
  let mut seen := tree
  let mut place := tree.base path
  for part in FileNode.steps path do
    if part == ".." then
      place := place.dropLast
    else
      place := place ++ [part]
      match ← look (fromRoot place) with
      | .file content => seen := seen.addFile (fromRoot place) content
      | .directory => seen := (seen.makeDirectory (fromRoot place)).1
      | .nothing => return seen
  return seen

def timeStamp : IO String := do
  let now ← Std.Time.Timestamp.now
  return (Std.Time.DateTime.ofTimestampWithZone now .UTC).format
    "uuuu-MM-dd'T'HH:mm:ss.SSSSSS'Z'"

/-- Everything around a run but its input and its files. -/
def surroundings : IO Surroundings := do
  let directory := toString (← IO.currentDir)
  let tree : FileTree := ⟨.empty, FileNode.steps directory⟩
  return {
    formatVariable := ← IO.getEnv "LOX_FORMAT"
    logVariable := ← IO.getEnv "LOX_LOG"
    dataVariable := ← IO.getEnv "XDG_DATA_HOME"
    home := (← IO.getEnv "HOME").getD "."
    files := (tree.makeDirectory directory).1
    input := .empty
    inputIsTerminal := ← (← IO.getStdin).isTty
    stamp := ← timeStamp }

/-- Makes the directory of the history, if that can be done. -/
def makeHistoryDirectory (path : String) : IO Unit := do
  try IO.FS.createDirAll path catch _ => return

def run (arguments : List String) : IO UInt32 := do
  let bare ← surroundings
  let input ←
    if Program.readsInput arguments bare then (← IO.getStdin).readBinToEnd else pure .empty
  let withInput := { bare with input }
  let files ← (Program.filesWanted arguments withInput).foldlM observe withInput.files
  if Program.mode? arguments bare == some .session then
    makeHistoryDirectory (Session.History.directory (Program.dataPath bare))
  let outcome := Program.run arguments { withInput with files }
  IO.print outcome.output.stdout
  IO.eprint outcome.output.stderr
  return outcome.exitCode.toUInt32

end Main
end LoxTokenizer

def main (arguments : List String) : IO UInt32 := LoxTokenizer.Main.run arguments

namespace LoxTokenizer

/-!
Files as far as the program needs them: a tree of directories, paths through it from the root or
from the working directory, and what can go wrong on the way.
-/

/-- A file with its bytes, or a directory with its entries. -/
inductive FileNode where
  | file (content : ByteArray)
  | directory (entries : List (String × FileNode))

/-- Why something could not be read or made. -/
inductive FileFailure where
  | notFound
  | notDirectory
  | isDirectory
  | alreadyExists
  | nameTooLong
  | zeroInPath
  | notText
  deriving DecidableEq

namespace FileFailure

def message : FileFailure → String
  | .notFound => "No such file or directory (os error 2)"
  | .notDirectory => "Not a directory (os error 20)"
  | .isDirectory => "Is a directory (os error 21)"
  | .alreadyExists => "File exists (os error 17)"
  | .nameTooLong => "File name too long (os error 36)"
  | .zeroInPath => "file name contained an unexpected NUL byte"
  | .notText => "stream did not contain valid UTF-8"

end FileFailure

namespace FileNode

def empty : FileNode := .directory []

def lookup? (name : String) : List (String × FileNode) → Option FileNode
  | [] => none
  | (other, node) :: rest => if other = name then some node else lookup? name rest

/-- Entries with one of them replaced, or added at the end. -/
def setEntry (name : String) (node : FileNode) :
    List (String × FileNode) → List (String × FileNode)
  | [] => [(name, node)]
  | (other, old) :: rest =>
      if other = name then (name, node) :: rest else (other, old) :: setEntry name node rest

/-- The parts of a path, between its slashes. -/
def parts (path : String) : List String := (path.toList.splitOn '/').map String.ofList

/-- The steps of a path that lead somewhere: no empty ones and no dots. -/
def steps (path : String) : List String :=
  (parts path).filter fun part => part != "" && part != "."

/-- Puts a node under a directory, making the directories on its way.  A file on its way gives
place to a directory. -/
def put (node : FileNode) : List String → FileNode → FileNode
  | [], _ => node
  | name :: rest, .directory entries =>
      .directory (setEntry name (put node rest ((lookup? name entries).getD empty)) entries)
  | name :: rest, .file _ => .directory [(name, put node rest empty)]

/-- What is found below a node, going down by names. -/
def below? : List String → FileNode → Option FileNode
  | [], node => some node
  | name :: rest, .directory entries => (lookup? name entries).bind (below? rest)
  | _ :: _, .file _ => none

end FileNode

/-- The files that the program can see, and the directory that it works in. -/
structure FileTree where
  root : FileNode
  workingDirectory : List String

namespace FileTree

/-- The longest name that a file may have, in bytes. -/
def longestName : Nat := 255

/-- The longest path that can be followed, in bytes. -/
def longestPath : Nat := 4095

def isAbsolute (path : String) : Bool := path.toList.head? == some '/'

/-- Follows the parts of a path.  The directories passed so far are a stack, the nearest first;
above the last of them, the root, is the root again. -/
def follow : FileNode → List FileNode → List String → Except FileFailure FileNode
  | here, _, [] => .ok here
  | .file _, _, _ :: _ => .error .notDirectory
  | .directory entries, above, part :: rest =>
      if part = "" ∨ part = "." then follow (.directory entries) above rest
      else if part = ".." then
        match above with
        | [] => follow (.directory entries) [] rest
        | parent :: higher => follow parent higher rest
      else if longestName < part.utf8ByteSize then .error .nameTooLong
      else
        match FileNode.lookup? part entries with
        | none => .error .notFound
        | some node => follow node (.directory entries :: above) rest

/-- What stands in front of the parts of a path: nothing if it starts at the root, else the working
directory. -/
def base (tree : FileTree) (path : String) : List String :=
  if isAbsolute path then [] else tree.workingDirectory

def find (tree : FileTree) (path : String) : Except FileFailure FileNode :=
  if path = "" then .error .notFound
  else if path.toList.contains '\x00' then .error .zeroInPath
  else if longestPath < path.utf8ByteSize then .error .nameTooLong
  else follow tree.root [] (tree.base path ++ FileNode.parts path)

def readBytes (tree : FileTree) (path : String) : Except FileFailure ByteArray :=
  match tree.find path with
  | .error failure => .error failure
  | .ok (.directory _) => .error .isDirectory
  | .ok (.file content) => .ok content

def readText (tree : FileTree) (path : String) : Except FileFailure String :=
  match tree.readBytes path with
  | .error failure => .error failure
  | .ok content =>
      match String.fromUTF8? content with
      | some text => .ok text
      | none => .error .notText

/-- Makes the directories that are missing on a way from some place below a node, one after another.
What has been made stays, also when a later one cannot be. -/
def makeDirectories (root : FileNode) (place : List String) :
    List String → FileNode × Option FileFailure
  | [] => (root, none)
  | name :: rest =>
      if name = ".." then makeDirectories root place.dropLast rest
      else if longestName < name.utf8ByteSize then (root, some .nameTooLong)
      else
        let next := place ++ [name]
        match FileNode.below? next root with
        | some (.directory _) => makeDirectories root next rest
        | some (.file _) =>
            (root, some (if rest.isEmpty then .alreadyExists else .notDirectory))
        | none => makeDirectories (FileNode.put .empty next root) next rest

/-- Makes a directory, and those on its way.  Told is also what prevented it. -/
def makeDirectory (tree : FileTree) (path : String) : FileTree × Option FileFailure :=
  if longestPath < path.utf8ByteSize then (tree, some .nameTooLong)
  else
    let (root, failure) :=
      makeDirectories tree.root [] (tree.base path ++ FileNode.steps path)
    ({ tree with root }, failure)

def addFile (tree : FileTree) (path : String) (content : ByteArray) : FileTree :=
  { tree with root := FileNode.put (.file content) (tree.base path ++ FileNode.steps path) tree.root }

/-- A name added to a path. -/
def join (path name : String) : String :=
  if path.toList.getLast? == some '/' then path ++ name else path ++ "/" ++ name

end FileTree

end LoxTokenizer

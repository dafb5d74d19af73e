import LoxTokenizer.Text.Bytes
import LoxTokenizer.Text.Cluster.Basic

namespace LoxTokenizer
namespace Session

/-!
Backspaces in input that is not typed on a terminal.  A backspace takes back what was kept last: a
whole cluster, that is, what a reader takes for one character.  Of a cluster only its length in
bytes is remembered, and only as one byte; so a cluster of more than 255 bytes is not taken back as
a whole.
-/

def backspace : Char := '\x08'

/-- What has been kept of a text: its characters, the last first, and the remembered length of
each cluster that can still be taken back. -/
structure Kept where
  text : List Char
  sizes : List Nat

/-- Takes bytes off the end of a text whose last character is first. -/
def dropBytes : Nat → List Char → List Char
  | _, [] => []
  | 0, text => text
  | count + 1, char :: rest => dropBytes (count + 1 - char.utf8Size) rest

namespace Kept

def nothing : Kept := ⟨[], []⟩

/-- The values that a remembered length can have. -/
def sizeValues : Nat := 256

/-- Takes back what was kept last. -/
def takeBack (kept : Kept) : Kept :=
  match kept.sizes with
  | [] => kept
  | size :: earlier => ⟨dropBytes size kept.text, earlier⟩

def keep (kept : Kept) (cluster : List Char) : Kept :=
  ⟨cluster.reverse ++ kept.text, Text.byteLength cluster % sizeValues :: kept.sizes⟩

/-- Goes on by one cluster. -/
def step (kept : Kept) (cluster : List Char) : Kept :=
  if cluster = [backspace] then kept.takeBack else kept.keep cluster

end Kept

/-- A text after its backspaces have been applied.  One without backspaces stays as it is, so there
is no need to divide it. -/
def withoutBackspaces (text : List Char) : List Char :=
  if text.contains backspace then
    ((Text.clusters text).foldl Kept.step .nothing).text.reverse
  else text

end Session
end LoxTokenizer

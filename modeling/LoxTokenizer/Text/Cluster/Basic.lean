import LoxTokenizer.Text.Cluster.Role

namespace LoxTokenizer
namespace Text

/-!
A text divided into the clusters that readers take for one character: a letter with its accents, a
flag, a family of pictographs.  These are the extended grapheme clusters of Unicode.  Whether two
neighbours belong together is decided by what they are and, for flags, joined pictographs and
conjuncts, by what stands before them.
-/

/-- Whether the characters before a consonant end in a conjunct that it completes: a consonant and
marks behind it, of which one links. -/
def endsLinked (before : List ClusterRole) : Bool :=
  (before.takeWhile ClusterRole.isWithinConjunct).contains .linker &&
    (before.dropWhile ClusterRole.isWithinConjunct).head? == some .consonant

/-- Whether the characters before a joiner are a pictograph and what extends it. -/
def endsInPictograph (before : List ClusterRole) : Bool :=
  (before.dropWhile ClusterRole.isExtending).head? == some .pictograph

/-- Whether the characters before a regional indicator end in half a flag. -/
def endsInHalfFlag (before : List ClusterRole) : Bool :=
  (before.takeWhile (· == .regionalIndicator)).length % 2 == 1

/-- Whether a character belongs to the cluster before it.  Given are the roles of the characters
before it, the nearest first. -/
def joins (before : List ClusterRole) (role : ClusterRole) : Bool :=
  match before with
  | [] => false
  | nearest :: earlier =>
      if nearest = .carriageReturn ∧ role = .lineFeed then true
      else if nearest.isControl || role.isControl then false
      else
        nearest.isWithinSyllable role || role.isExtending || role == .joiner ||
          role == .spacingMark || nearest == .prepend ||
          (role == .consonant && endsLinked before) ||
          (role == .pictograph && nearest == .joiner && endsInPictograph earlier) ||
          (role == .regionalIndicator && endsInHalfFlag before)

/-- Whether the text behind some characters begins with one that belongs to their cluster. -/
def joinsNext (before : List ClusterRole) : List Char → Bool
  | [] => false
  | next :: _ => joins before (.ofChar next)

/-- Divides a text into clusters, behind characters of the given roles, the nearest first. -/
def clustersBehind (before : List ClusterRole) : List Char → List (List Char)
  | [] => []
  | char :: rest =>
      let read := .ofChar char :: before
      match clustersBehind read rest with
      | [] => [[char]]
      | cluster :: later =>
          if joinsNext read rest then (char :: cluster) :: later else [char] :: cluster :: later

def clusters (text : List Char) : List (List Char) := clustersBehind [] text

end Text
end LoxTokenizer

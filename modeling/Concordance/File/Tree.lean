import Concordance.AscMap
import Concordance.File.Path
import Concordance.Text.Utf8

/-!
# File trees

A file tree holds what is on disk as a value: for each place, the directory, file or link that is
there. A place is the list of names that lead to it from the root. A path is followed name by name,
from the root or from the working directory; a link is followed by following its target, at most
`maxLinks` times. A link at the end of a path is followed or not, as the operation wants.

Directories and files carry their permission bits, and new ones get those that the mask leaves.
Whether the bits permit an operation is not considered.

Model of the disk as the library looks at it: whether a path is a file or a directory, the text in a
file, permission bits, and what is in a directory.

* `walk` and `walkFrom`: where a path leads.
* `isFile`, `isDir`, `read?`, `mode?`, `list?`: what is found there.
* `mem_children`: a directory has what is at the places right below its own.

Out of scope: owners, times, further names of one file, files that are no regular ones, and other
programs that change the disk in between. What the system lets one see is a parameter (`Unseen`).
-/

namespace Concordance

/-- The names that lead from the root to a place. -/
abbrev Place := List Text

/-- Places are ordered by their names from the first on. -/
instance : LE Place := List.instLE

instance : Std.IsLinearOrder Place := List.instIsLinearOrder

instance : Std.LawfulOrderLT Place := List.instLawfulOrderLTOfAsymmLt

/-- The path of a place. -/
def Place.toPath (place : Place) : Text := '/' :: Text.join ['/'] place

/-- What is at a place. -/
inductive Node where
  | file (mode : Nat) (content : ByteArray)
  | dir (mode : Nat)
  | link (target : Text)
  deriving BEq

/-- What is on disk, the working directory, and the permission bits that new files do not get. -/
structure FileTree where
  nodes : AscMap Place Node
  here : Place
  mask : Nat

/-- Why a path leads nowhere. -/
inductive PathFault where
  /-- Nothing is there, or the path is empty. -/
  | notFound
  /-- Names come after something that is not a directory. -/
  | notDirectory
  /-- Something is there that may not be. -/
  | occupied
  /-- The path leads through too many links. -/
  | tooManyLinks
  /-- The path or a name in it cannot be used. -/
  | unusable
  /-- The system does not allow it. -/
  | refused
  deriving DecidableEq, Repr

/-- Where a path leads: to a place with a node, or to a free name in a directory. -/
inductive Spot where
  | taken (place : Place)
  | free (dir : Place) (name : Text)
  deriving DecidableEq, Repr

/-- The place of a spot, whether something is there or not. -/
def Spot.place : Spot → Place
  | .taken place => place
  | .free dir name => dir ++ [name]

namespace FileTree

/-- The most links that are followed on the way along a path. -/
def maxLinks : Nat := 40

/-- The most bytes of a name. -/
def maxName : Nat := 255

/-- The most bytes of a path. -/
def maxPath : Nat := 4095

/-- Whether a path has more bytes than a path may have. -/
def isTooLong (p : Text) : Bool := (Text.toBytes p).size > maxPath

/-- The path that leads from the root where a path leads from the working directory. -/
def absolute (f : FileTree) (p : Text) : Text := Path.join f.here.toPath p

/-- What is at a place; the root is a directory. -/
def node? (f : FileTree) : Place → Option Node
  | [] => some (.dir 0o755)
  | p => f.nodes.get? p

theorem node?_of_ne_nil (f : FileTree) {r : Place} (h : r ≠ []) : f.node? r = f.nodes.get? r := by
  cases r with
  | nil => exact absurd rfl h
  | cons => rfl

/-- The names along a path. -/
def names (p : Text) : List Text := (Text.pieces (· == '/') p).filter (!·.isEmpty)

/-- The steps of a path. A slash at the end is a step to where one is, so that what comes before it
must be a directory. -/
def steps (p : Text) : List Text :=
  names p ++ if p.getLast? = some '/' then [['.']] else []

/-- Where the first steps of a path start. -/
def start (dir : Place) (p : Text) : Place := if Path.isAbsolute p then [] else dir

/-- Where steps from a directory lead. `jump` is where steps lead that start with those of a
link. -/
def walkWith (f : FileTree) (follow : Bool) (jump : Place → List Text → Except PathFault Spot)
    (dir : Place) : List Text → Except PathFault Spot
  | [] => .ok (.taken dir)
  | name :: rest =>
    if name = ['.'] then walkWith f follow jump dir rest
    else if name = ['.', '.'] then walkWith f follow jump dir.dropLast rest
    else if (Text.toBytes name).size > maxName then .error .unusable
    else
      match f.node? (dir ++ [name]) with
      | none => if rest.isEmpty then .ok (.free dir name) else .error .notFound
      | some (.dir _) => walkWith f follow jump (dir ++ [name]) rest
      | some (.file _ _) =>
        if rest.isEmpty then .ok (.taken (dir ++ [name])) else .error .notDirectory
      | some (.link target) =>
        if rest.isEmpty && !follow then .ok (.taken (dir ++ [name]))
        else jump (start dir target) (steps target ++ rest)

/-- Where steps from a directory lead if so many links may be followed. -/
def walkFrom (f : FileTree) (follow : Bool) : Nat → Place → List Text → Except PathFault Spot
  | 0 => walkWith f follow fun _ _ => .error .tooManyLinks
  | n + 1 => walkWith f follow (walkFrom f follow n)

/-- Where some steps lead from the start of a path. -/
def walkAlong (f : FileTree) (follow : Bool) (p : Text) (ss : List Text) : Except PathFault Spot :=
  if p.isEmpty then .error .notFound
  else if p.contains '\x00' || isTooLong p then .error .unusable
  else walkFrom f follow maxLinks (start f.here p) ss

/-- Where a path leads. -/
def walk (f : FileTree) (follow : Bool) (p : Text) : Except PathFault Spot :=
  f.walkAlong follow p (steps p)

/-! ## Looking -/

/-- The place and the node at the end of a path, links followed. -/
def find? (f : FileTree) (p : Text) : Option (Place × Node) :=
  match f.walk true p with
  | .ok (.taken place) => (f.node? place).map (place, ·)
  | _ => none

/-- Whether a path leads to a file. -/
def isFile (f : FileTree) (p : Text) : Bool :=
  match f.find? p with
  | some (_, .file _ _) => true
  | _ => false

/-- Whether a path leads to a directory. -/
def isDir (f : FileTree) (p : Text) : Bool :=
  match f.find? p with
  | some (_, .dir _) => true
  | _ => false

/-- The content of the file that a path leads to. -/
def bytes? (f : FileTree) (p : Text) : Option ByteArray :=
  match f.find? p with
  | some (_, .file _ content) => some content
  | _ => none

theorem isFile_eq (f : FileTree) (p : Text) : f.isFile p = (f.bytes? p).isSome := by
  unfold isFile bytes?
  split <;> rfl

/-- The text of the file that a path leads to, if it is one. -/
def read? (f : FileTree) (p : Text) : Option Text := (f.bytes? p).bind Text.ofBytes?

/-- The permission bits of the file or directory that a path leads to. -/
def mode? (f : FileTree) (p : Text) : Option Nat :=
  match f.find? p with
  | some (_, .file mode _) | some (_, .dir mode) => some mode
  | _ => none

/-- The last name of a place in a directory, if the place is directly in it. -/
def nameIn? (dir place : Place) : Option Text :=
  match place.getLast? with
  | some name => if place.dropLast = dir then some name else none
  | none => none

/-- What is directly in a directory, in ascending order of the names. -/
def children (f : FileTree) (dir : Place) : List (Text × Node) :=
  f.nodes.toList.filterMap fun (place, node) => (nameIn? dir place).map (·, node)

theorem nameIn?_eq_some_iff {dir place : Place} {name : Text} :
    nameIn? dir place = some name ↔ place = dir ++ [name] := by
  unfold nameIn?
  split
  case h_1 last hlast =>
    obtain ⟨init, rfl⟩ := List.getLast?_eq_some_iff.mp hlast
    simp
  case h_2 hlast =>
    rw [List.getLast?_eq_none_iff.mp hlast]
    simp

/-- A directory has what is at the places right below its own. -/
theorem mem_children {f : FileTree} {dir : Place} {name : Text} {node : Node} :
    (name, node) ∈ f.children dir ↔ f.node? (dir ++ [name]) = some node := by
  rw [node?_of_ne_nil f (by simp), ← AscMap.mem_toList_iff, children, List.mem_filterMap]
  constructor
  · rintro ⟨⟨place, node'⟩, hmem, heq⟩
    obtain ⟨name', hname, heq⟩ := Option.map_eq_some_iff.mp heq
    cases heq
    exact nameIn?_eq_some_iff.mp hname ▸ hmem
  · exact fun hmem => ⟨_, hmem, Option.map_eq_some_iff.mpr ⟨name, nameIn?_eq_some_iff.mpr rfl, rfl⟩⟩

/-- What is directly in the directory that a path leads to. -/
def list? (f : FileTree) (p : Text) : Option (List (Text × Node)) :=
  match f.find? p with
  | some (place, .dir _) => some (f.children place)
  | _ => none

/-! ## Refused looks -/

/-- A look at the disk that the system may refuse, for want of permission. -/
inductive Look where
  /-- To see what a path leads to. -/
  | see (p : Text)
  /-- To list what is in a directory. -/
  | list (p : Text)
  /-- To read a file. -/
  | read (p : Text)
  deriving DecidableEq

/-- The looks that the system refuses. -/
abbrev Unseen := Look → Bool

/-- The system refuses no look. -/
def Unseen.none : Unseen := fun _ => false

end FileTree

end Concordance

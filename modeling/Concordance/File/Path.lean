import Concordance.Text.Basic

/-!
# Path texts

A path is written as names between slashes. An empty name or a single dot between or after slashes
names nothing, so paths that differ in them lead to the same place; the operations here nevertheless
keep the text of a path as far as they can, because it is shown.

A path has a *base* that no operation cuts into, a leading slash or a leading dot, and names after
it. The parent of a path is the path without its last name; the base has no parent unless it is a
dot.

Model of the operations on paths that `persist_index` (`directory`), `profile_file` (`stem?`,
`withName`), `resolve_with_base` (`isAbsolute`, `join`), `resolve_paths` (`parent?`) and
`DirLemmaSource` (`join`) use.

Out of scope: paths that are no texts, and other systems' paths.
-/

namespace Concordance.Path

/-- Whether a path starts at the root. -/
def isAbsolute : Text → Bool
  | '/' :: _ => true
  | _ => false

/-- A path under a base; an absolute path stands for itself. -/
def join (base p : Text) : Text :=
  if isAbsolute p then p
  else match base.getLast? with
    | none => p
    | some '/' => base ++ p
    | some _ => base ++ '/' :: p

/-- The leading slash or dot of a path, and what follows it. -/
def splitBase : Text → Text × Text
  | '/' :: r => (['/'], r)
  | ['.'] => (['.'], [])
  | '.' :: '/' :: r => (['.'], '/' :: r)
  | t => ([], t)

/-- Whether a part between slashes names nothing. -/
def isVoid (part : Text) : Bool := part = [] || part = ['.']

/-- The parts without those at the end that name nothing. -/
def dropVoid (parts : List Text) : List Text := (parts.reverse.dropWhile isVoid).reverse

/-- The parts of a path after its base, up to its last name. -/
def parts (p : Text) : List Text := dropVoid (Text.pieces (· == '/') (splitBase p).2)

/-- The path of some parts after a base. -/
def ofParts (base : Text) (parts : List Text) : Text := base ++ Text.join ['/'] parts

/-- The path without its last name. -/
def parent? (p : Text) : Option Text :=
  let base := (splitBase p).1
  match parts p with
  | [] => if base = ['.'] then some [] else none
  | ps => some (ofParts base (dropVoid ps.dropLast))

/-- The last name of a path, unless it leads upward. -/
def fileName? (p : Text) : Option Text :=
  match (parts p).getLast? with
  | some ['.', '.'] => none
  | last => last

/-- The text before the last dot, unless there is nothing else before it. -/
def stemOf (name : Text) : Text :=
  match Text.cutAt (· == '.') name.reverse with
  | some (_, []) => name
  | some (_, before) => before.reverse
  | none => name

/-- The last name of a path without what follows its last dot. -/
def stem? (p : Text) : Option Text := (fileName? p).map stemOf

/-- The path with another last name, in place of one that it has. -/
def withName (p name : Text) : Text := join ((parent? p).getD []) name

/-- The directory of a path, where the empty path stands for the current one. -/
def directory (p : Text) : Text :=
  match parent? p with
  | none | some [] => ['.']
  | some d => d

end Concordance.Path

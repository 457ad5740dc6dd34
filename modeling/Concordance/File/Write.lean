import Concordance.Error
import Concordance.File.Tree

/-!
# Changing a file tree

The operations that change a file tree, and the one that the library needs: `replaceFile` writes a
file through a temporary one beside it that is then moved into place, so that at no time the file is
half written. Directories on the way are made. A file that is there keeps its permission bits, found
through a link; a link itself is replaced, and what it leads to stays. If any step fails, what is
left of it are the directories that were made.

The system may refuse any step (`Refusals`); a tree does not say which.

Model of `persist_index` (`replaceFile`), with `create_dir_all` (`makeDirs`), the temporary file,
its permission bits, and the rename each as a step that may fail. Of the temporary file it is
assumed that its name is new, that it is removed once it is not needed, and that the rename is done
at once or not at all.

* `node?_put`, `node?_drop`: what changing one place changes.
* `node?_freshName`: a temporary file takes the place of nothing.

Out of scope: other programs that change the disk in between, and the loss of power.
-/

namespace Concordance.FileTree

/-- The bits of a mode that the mask leaves. -/
def masked (f : FileTree) (mode : Nat) : Nat := mode - (mode &&& f.mask)

/-- Puts a node at a place, in place of what is there. -/
def put (f : FileTree) (place : Place) (node : Node) : FileTree :=
  { f with nodes := f.nodes.insert place node }

/-- Takes away what is at a place. -/
def drop (f : FileTree) (place : Place) : FileTree := { f with nodes := f.nodes.erase place }

theorem node?_put (f : FileTree) {place : Place} (h : place ≠ []) (node : Node) (q : Place) :
    (f.put place node).node? q = if q = place then some node else f.node? q := by
  cases q with
  | nil => simp [node?, Ne.symm h]
  | cons a q => exact AscMap.get?_insert ..

theorem node?_drop (f : FileTree) {place : Place} (h : place ≠ []) (q : Place) :
    (f.drop place).node? q = if q = place then none else f.node? q := by
  cases q with
  | nil => simp [node?, Ne.symm h]
  | cons a q => exact AscMap.get?_erase ..

theorem node?_put_self (f : FileTree) {place : Place} (h : place ≠ []) (node : Node) :
    (f.put place node).node? place = some node := by
  rw [node?_put f h, if_pos rfl]

theorem node?_put_of_ne (f : FileTree) {place q : Place} (h : place ≠ []) (node : Node)
    (hq : q ≠ place) : (f.put place node).node? q = f.node? q := by
  rw [node?_put f h, if_neg hq]

theorem node?_drop_self (f : FileTree) {place : Place} (h : place ≠ []) :
    (f.drop place).node? place = none := by
  rw [node?_drop f h, if_pos rfl]

/-- Putting what is there already changes nothing. -/
theorem put_self {f : FileTree} {place : Place} {node : Node} (h : place ≠ [])
    (hnode : f.node? place = some node) : f.put place node = f := by
  have hnodes : f.nodes.insert place node = f.nodes := AscMap.ext_get? fun q => by
    by_cases hq : q = place
    · simp [hq, ← node?_of_ne_nil f h, hnode]
    · simp [hq]
  rw [put, hnodes]

theorem put_put (f : FileTree) (place : Place) (a b : Node) :
    (f.put place a).put place b = f.put place b := by
  have hnodes : (f.nodes.insert place a).insert place b = f.nodes.insert place b :=
    AscMap.ext_get? fun q => by by_cases hq : q = place <;> simp [hq]
  rw [put, put, put, hnodes]

theorem put_drop (f : FileTree) (place : Place) (node : Node) :
    (f.drop place).put place node = f.put place node := by
  have hnodes : (f.nodes.erase place).insert place node = f.nodes.insert place node :=
    AscMap.ext_get? fun q => by by_cases hq : q = place <;> simp [hq]
  rw [put, put, drop, hnodes]

/-- What was put at a free place is taken away without a trace. -/
theorem drop_put {f : FileTree} {place : Place} (h : place ≠ []) (hfree : f.node? place = none)
    (node : Node) : (f.put place node).drop place = f := by
  have hnodes : (f.nodes.insert place node).erase place = f.nodes := AscMap.ext_get? fun q => by
    by_cases hq : q = place
    · simp [hq, ← node?_of_ne_nil f h, hfree]
    · simp [hq]
  rw [put, drop, hnodes]

/-! ## Refusals -/

/-- A step that the system may refuse, for want of permission or of room. -/
inductive Attempt where
  /-- To make a directory; `again` after its parents were made. -/
  | makeDir (p : Text) (again : Bool)
  /-- To see whether there is a directory. -/
  | seeDir (p : Text)
  /-- To make a temporary file. -/
  | makeTemp
  /-- To see the permission bits of the file that is to be replaced. -/
  | seeMode
  /-- To set those of the temporary file. -/
  | setMode
  /-- To write to the temporary file. -/
  | write
  /-- To move the temporary file into place. -/
  | move
  deriving DecidableEq

/-- The steps that the system refuses. -/
abbrev Refusals := Attempt → Bool

/-- The system refuses nothing. -/
def Refusals.none : Refusals := fun _ => false

/-! ## Making directories -/

/-- Makes a directory, where nothing may be yet; a slash at the end of the path has no meaning. -/
def makeDir (f : FileTree) (p : Text) : Except PathFault FileTree :=
  match f.walkAlong false p (names p) with
  | .ok (.free dir name) => .ok (f.put (dir ++ [name]) (.dir (f.masked 0o777)))
  | .ok (.taken _) => .error .occupied
  | .error e => .error e

/-- A path with its parents, nearest first. -/
def lineage (p : Text) : List Text := go (Path.parts p).length p
where
  go : Nat → Text → List Text
    | 0, p => [p]
    | n + 1, p =>
      match Path.parent? p with
      | some q => p :: go n q
      | none => [p]

/-- Makes a directory, if the system lets one. -/
def tryDir (f : FileTree) (refuses : Refusals) (p : Text) (again : Bool) :
    Except PathFault FileTree :=
  if refuses (.makeDir p again) then .error .refused else f.makeDir p

/-- What is made of a directory that could not be made: nothing is wrong if it is there. -/
def settle (f : FileTree) (refuses : Refusals) (p : Text) (e : PathFault) :
    FileTree × Except PathFault Unit :=
  (f, if f.isDir p && !refuses (.seeDir p) then .ok () else .error e)

/-- Makes the first directory of a lineage and those of its parents that are missing. -/
def makeDirsAlong (f : FileTree) (refuses : Refusals) :
    List Text → FileTree × Except PathFault Unit
  | [] => (f, .error .notFound)
  | p :: parents =>
    if p.isEmpty then (f, .ok ())
    else match f.tryDir refuses p false with
      | .ok g => (g, .ok ())
      | .error .notFound =>
        match f.makeDirsAlong refuses parents with
        | (g, .error e) => (g, .error e)
        | (g, .ok ()) =>
          match g.tryDir refuses p true with
          | .ok h => (h, .ok ())
          | .error e => g.settle refuses p e
      | .error e => f.settle refuses p e

/-- Makes a directory and those of its parents that are missing (`create_dir_all`). -/
def makeDirs (f : FileTree) (p : Text) : FileTree × Except PathFault Unit :=
  f.makeDirsAlong .none (lineage p)

/-! ## Replacing a file -/

/-- The start of the names of temporary files. -/
def tempMark : Text := ".lexidx-".toList

/-- A name that nothing in a tree has: it is longer than every name. -/
def freshName (f : FileTree) : Text :=
  tempMark ++ List.replicate (f.nodes.toList.foldl (fun n e => n + e.1.flatten.length) 1) '0'

theorem length_le_foldl (l : List (Place × Node)) (n : Nat) :
    n ≤ l.foldl (fun n e => n + e.1.flatten.length) n ∧
      ∀ e ∈ l, n + e.1.flatten.length ≤ l.foldl (fun n e => n + e.1.flatten.length) n := by
  induction l generalizing n with
  | nil => exact ⟨Nat.le_refl n, nofun⟩
  | cons a l ih =>
    obtain ⟨hle, hmem⟩ := ih (n + a.1.flatten.length)
    rw [List.foldl_cons]
    refine ⟨Nat.le_trans (Nat.le_add_right _ _) hle, fun e he => ?_⟩
    rcases List.mem_cons.mp he with rfl | he
    · exact hle
    · exact Nat.le_trans (by omega) (hmem e he)

/-- Nothing has the fresh name. -/
theorem node?_freshName (f : FileTree) (dir : Place) : f.node? (dir ++ [f.freshName]) = none := by
  rw [node?_of_ne_nil f (by simp)]
  refine Option.eq_none_iff_forall_ne_some.mpr fun node hnode => ?_
  have hlong := (length_le_foldl f.nodes.toList 1).2 _ (AscMap.mem_toList_iff.mpr hnode)
  have hname : f.freshName.length ≤ (dir ++ [f.freshName]).flatten.length := by simp
  simp only [freshName, List.length_append, List.length_replicate] at hname hlong
  omega

/-- The path of a temporary file in a directory. On disk, six letters tell temporary files apart. -/
def tempPath (f : FileTree) (dir : Text) : Text :=
  f.absolute (Path.join dir (tempMark ++ List.replicate 6 'x'))

/-- Makes an empty temporary file in a directory, if its path from the root is not too long. -/
def makeTemp? (f : FileTree) (dir : Text) : Option (Place × FileTree) :=
  match f.find? dir with
  | some (place, .dir _) =>
    if isTooLong (f.tempPath dir) then none
    else
      let temp := place ++ [f.freshName]
      some (temp, f.put temp (.file (f.masked 0o666) .empty))
  | _ => none

/-- Moves a file at a place to the end of a path, in place of a file or link that is there. -/
def moveTo? (f : FileTree) (place : Place) (p : Text) : Option FileTree :=
  match f.node? place, f.walk false p with
  | some node, .ok spot =>
    match f.node? spot.place with
    | some (.dir _) => none
    | _ => some ((f.drop place).put spot.place node)
  | _, _ => none

/-- The permission bits of what a file is to replace, if the system shows any. -/
def oldMode? (f : FileTree) (refuses : Refusals) (p : Text) : Option Nat :=
  if refuses .seeMode then none else f.mode? p

/-- The permission bits of a file that replaces what a path leads to. -/
def newMode (f : FileTree) (refuses : Refusals) (p : Text) : Nat :=
  (f.oldMode? refuses p).getD (f.masked 0o666)

/-- Whether the system refuses a step between the making of a temporary file and its move. -/
def isStopped (f : FileTree) (refuses : Refusals) (p : Text) : Bool :=
  (f.oldMode? refuses p).isSome && refuses .setMode || refuses .write || refuses .move

/-- Writes a file by way of a temporary one, which goes away with any step that fails
(`persist_index`). -/
def replaceFile (f : FileTree) (refuses : Refusals) (p : Text) (content : ByteArray) :
    FileTree × Except Error Unit :=
  match f.makeDirsAlong refuses (lineage (Path.directory p)) with
  | (g, .error _) => (g, .error .inaccessible)
  | (g, .ok ()) =>
    match if refuses .makeTemp then none else g.makeTemp? (Path.directory p) with
    | none => (g, .error .inaccessible)
    | some (temp, h) =>
      let filled := h.put temp (.file (h.newMode refuses p) content)
      match if h.isStopped refuses p then none else filled.moveTo? temp p with
      | some moved => (moved, .ok ())
      | none => (h.drop temp, .error .inaccessible)

/-! ## Preparing a tree -/

/-- Writes a file in place, making its directories; a link is followed. -/
def writeFile? (f : FileTree) (p : Text) (content : ByteArray) : Option FileTree :=
  match f.makeDirs (Path.directory p) with
  | (_, .error _) => none
  | (g, .ok ()) =>
    match g.walk true p with
    | .ok (.free dir name) => some (g.put (dir ++ [name]) (.file (g.masked 0o666) content))
    | .ok (.taken place) =>
      match g.node? place with
      | some (.file mode _) => some (g.put place (.file mode content))
      | _ => none
    | .error _ => none

/-- Makes a link to a target, where nothing may be yet. The target need not be there, but must be
fit for a path. -/
def makeLink? (f : FileTree) (target p : Text) : Option FileTree :=
  if target.isEmpty || target.contains '\x00' || isTooLong target then none
  else match f.walk false p with
  | .ok (.free dir name) => some (f.put (dir ++ [name]) (.link target))
  | _ => none

/-- Takes away what a path leads to, a link itself and a directory with all that is in it. -/
def remove? (f : FileTree) (p : Text) : Option FileTree :=
  match f.walk false p with
  | .ok (.taken place) =>
    some { f with nodes := f.nodes.filter fun q _ => !place.isPrefixOf q }
  | _ => none

/-- The bits of a mode that are permissions to read, write and execute. -/
def permissionBits (mode : Nat) : Nat := mode % 0o1000

/-- Sets the permission bits of the file or directory that a path leads to. -/
def setMode? (f : FileTree) (p : Text) (mode : Nat) : Option FileTree :=
  match f.find? p with
  | some (place, .file _ content) => some (f.put place (.file (permissionBits mode) content))
  | some (place, .dir _) => some (f.put place (.dir (permissionBits mode)))
  | _ => none

/-- Makes the directory that a path leads to the working directory. -/
def enter? (f : FileTree) (p : Text) : Option FileTree :=
  match f.find? p with
  | some (place, .dir _) => some { f with here := place }
  | _ => none

end Concordance.FileTree

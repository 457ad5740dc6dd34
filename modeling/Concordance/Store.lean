import Concordance.Builder
import Concordance.Collection
import Concordance.File.Write
import Concordance.Index.Lines
import Concordance.Registry.Lines
import Concordance.Settings.Expand

/-!
# Collections on disk

An index is loaded from its file, which must be there; a registry that is not there is empty. What
the system does not let one see is as good as missing, and what it does not let one read cannot be
loaded. Saving an index replaces its file.

Model of `load_index`, `load_registry`, `SearchEngine.open`, `persist_index` and
`IndexBuilder.persist`.

Out of scope: log lines.
-/

namespace Concordance

/-- The text of a file that is known to be there. -/
def FileTree.readText (f : FileTree) (p : Text) (unseen : FileTree.Unseen := .none) :
    Except Error Text :=
  match if unseen (.read p) then none else f.read? p with
  | some t => .ok t
  | none => .error .inaccessible

/-- The index in a file that can be seen (`load_index`). -/
def Index.load (f : FileTree) (p : Text) (unseen : FileTree.Unseen := .none) :
    Except Error Index :=
  if f.isFile p && !unseen (.see p) then do
    (Index.ofText (← f.readText p unseen)).mapError (.malformed p)
  else .error (.notFound p)

/-- The registry in a file; empty if none can be seen (`load_registry`). -/
def Registry.load (f : FileTree) (p : Text) (unseen : FileTree.Unseen := .none) :
    Except Error Registry :=
  if f.isFile p && !unseen (.see p) then do
    (Registry.ofText (← f.readText p unseen)).mapError (.malformed p)
  else .ok ∅

/-- The collection whose index and registry are in files (`SearchEngine.open`). -/
def Collection.load (f : FileTree) (indexFile registryFile : Text)
    (unseen : FileTree.Unseen := .none) : Except Error Collection := do
  let x ← Index.load f indexFile unseen
  let r ← Registry.load f registryFile unseen
  return .of x r

/-- Writes an index to its file, whatever the system refuses (`persist_index`). -/
def Index.saveUnder (x : Index) (f : FileTree) (refuses : FileTree.Refusals) (p : Text) :
    FileTree × Except Error Unit :=
  f.replaceFile refuses p (Text.toBytes x.toText)

/-- Writes an index to its file, where the system refuses nothing. -/
def Index.save (x : Index) (f : FileTree) (p : Text) : FileTree × Except Error Unit :=
  x.saveUnder f .none p

/-- Writes the index of a builder to its file, whatever the system refuses, and says what the
builder has counted (`persist`). -/
def Builder.saveUnder (b : Builder) (f : FileTree) (refuses : FileTree.Refusals) (p : Text) :
    FileTree × Except Error Stats :=
  match b.index.saveUnder f refuses p with
  | (g, .ok ()) => (g, .ok b.stats)
  | (g, .error e) => (g, .error e)

/-- Writes the index of a builder to its file, where the system refuses nothing. -/
def Builder.save (b : Builder) (f : FileTree) (p : Text) : FileTree × Except Error Stats :=
  b.saveUnder f .none p

end Concordance

import Concordance.Builder
import Concordance.File.Tree
import Concordance.Error

/-!
# Word lists on disk

A directory of word lists has a subdirectory `page<N>` for each document `N`, with the words of the
document in its file `lemmas.txt`, a word with its variants on each line. A document may have
several subdirectories, whose numbers differ in leading zeros; they count in the order of their
names. Files and links beside the subdirectories do not count, nor does document 0.

The directory is scanned once. The word lists are read when they are needed. The system may refuse
any look at the disk; a file that it does not let one see is as good as missing.

Model of `DirLemmaSource` (`open`, `documents`, `lemmas`), `page_doc_id`, and of
`IndexBuilder.ingest` and `IndexBuilder.build` with such a source.

Out of scope: log lines, and directories whose names are no texts; none of these is a `page<N>`.
-/

namespace Concordance

/-- The file with the words of a document (`LEMMAS_FILE`). -/
def wordFile : Text := "lemmas.txt".toList

/-- The start of the name of a document's directory (`PAGE_PREFIX`). -/
def pageMark : Text := "page".toList

/-- The document that a directory with a name belongs to (`page_doc_id`). -/
def pageOf? (name : Text) : Option DocId := do
  let digits ← Text.dropLead pageMark name
  let d ← (Text.ofDigits? digits).bind DocId.ofNat?
  if d = 0 then none else return d

/-- The directories of each document under a root directory (`DirLemmaSource`). -/
structure Pages where
  root : Text
  dirs : AscMap DocId (List Text)
  deriving DecidableEq

namespace Pages

/-- The document that something in a directory belongs to, if it is a directory itself. -/
def pageIn? (e : Text × Node) : Option DocId :=
  match e.2 with
  | .dir _ => pageOf? e.1
  | _ => none

/-- Takes what is in a directory for a directory of its document. -/
def addEntry (root : Text) (m : AscMap DocId (List Text)) (e : Text × Node) :
    AscMap DocId (List Text) :=
  match pageIn? e with
  | some d => m.insert d (m.getD d [] ++ [Path.join root e.1])
  | none => m

/-- The directories of documents among what is in a directory, in the order of their names whatever
the order of the listing is. -/
def dirsOf (root : Text) (listing : List (Text × Node)) : AscMap DocId (List Text) :=
  (AscMap.ofList listing).toList.foldl (addEntry root) ∅

/-- Scans a directory (`open`). -/
def scan (f : FileTree) (root : Text) (unseen : FileTree.Unseen := .none) : Except Error Pages :=
  match if unseen (.see root) then none else f.list? root with
  | none => .error (.notFound root)
  | some listing =>
    if unseen (.list root) then .error .inaccessible else .ok ⟨root, dirsOf root listing⟩

/-- The documents, in ascending order. -/
def documents (p : Pages) : List DocId := p.dirs.keys.toList

/-- The words in a document's directory; none if no file of words can be seen there. -/
def wordsIn (f : FileTree) (dir : Text) (unseen : FileTree.Unseen := .none) :
    Except Error (List Text) :=
  let file := Path.join dir wordFile
  if f.isFile file && !unseen (.see file) then
    match if unseen (.read file) then none else f.read? file with
    | some t => .ok (wordsOfLines t)
    | none => .error .inaccessible
  else .ok []

/-- The words in several directories. -/
def wordsInAll (f : FileTree) (unseen : FileTree.Unseen) : List Text → Except Error (List Text)
  | [] => .ok []
  | dir :: dirs => do return (← wordsIn f dir unseen) ++ (← wordsInAll f unseen dirs)

/-- The words of a document (`lemmas`). -/
def words (p : Pages) (f : FileTree) (d : DocId) (unseen : FileTree.Unseen := .none) :
    Except Error (List Text) :=
  wordsInAll f unseen (p.dirs.getD d [])

end Pages

namespace Builder

/-- Takes a document from disk (`ingest`). -/
def ingestPage (b : Builder) (f : FileTree) (p : Pages) (d : DocId)
    (unseen : FileTree.Unseen := .none) : Except Error Builder :=
  (p.words f d unseen).map (b.add d)

/-- Takes documents from disk one after another. -/
def ingestPages (b : Builder) (f : FileTree) (p : Pages) (unseen : FileTree.Unseen) :
    List DocId → Except Error Builder
  | [] => .ok b
  | d :: ds => do ingestPages (← b.ingestPage f p d unseen) f p unseen ds

/-- Takes every document from disk (`build`). -/
def ofPages (f : FileTree) (p : Pages) (unseen : FileTree.Unseen := .none) :
    Except Error Builder :=
  ingestPages ∅ f p unseen p.documents

/-- Takes every document from a directory on disk. -/
def ofDirectory (f : FileTree) (root : Text) (unseen : FileTree.Unseen := .none) :
    Except Error Builder := do
  ofPages f (← Pages.scan f root unseen) unseen

end Builder

end Concordance

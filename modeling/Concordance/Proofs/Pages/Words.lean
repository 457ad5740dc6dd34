import Concordance.Proofs.Builder.WordLines
import Concordance.Proofs.Pages.Failing
import Concordance.Proofs.Pages.Scanning

/-!
# The words in the directories of a document

The words of a directory are those in front of the lines of its file of words, and of several
directories those of one after another (`Collects`). A file of words is missing, or it is a text, or
it is no text; where nothing is refused (`Readable`), only the last stops the reading.

The words are those of `DirLemmaSource.lemmas`.

* **`Readable.wordsInAll_eq_ok_iff`**: what is read from several directories.
* `Readable.garbled_iff`: when a directory cannot be read.
* `Collects.mem_iff`: where a word was read.
-/

namespace Concordance

open FileTree (Unseen)

namespace Pages

/-- The path of the file of words in the directory with a name. -/
def wordPath (root name : Text) : Text := Path.join (Path.join root name) wordFile

/-- A path leads to a directory that can be listed, and the files of words in the directories of
documents below it can be read. -/
structure Readable (f : FileTree) (unseen : Unseen) (root : Text) (place : Place) : Prop where
  leads : ∃ mode, f.find? root = some (place, .dir mode)
  seen : unseen (.see root) = false
  listed : unseen (.list root) = false
  words : ∀ d name, HasPage f place d name → unseen (.see (wordPath root name)) = false ∧
    unseen (.read (wordPath root name)) = false

/-- The words in the directory with a name: none if there is no file of words. -/
inductive HasWords (f : FileTree) (root name : Text) : List Text → Prop where
  | missing : f.bytes? (wordPath root name) = none → HasWords f root name []
  | file {t : Text} {ws : List Text} : f.bytes? (wordPath root name) = some (Text.toBytes t) →
    FirstWords (Text.lines t) ws → HasWords f root name ws

/-- The words in the directories with some names, one after another. -/
inductive Collects (f : FileTree) (root : Text) : List Text → List Text → Prop where
  | nil : Collects f root [] []
  | cons {name : Text} {names ws more : List Text} : HasWords f root name ws →
    Collects f root names more → Collects f root (name :: names) (ws ++ more)

/-- The file of words in the directory with a name is no text. -/
def Undecodable (f : FileTree) (root name : Text) : Prop :=
  ∃ content, f.bytes? (wordPath root name) = some content ∧ ∀ t, content ≠ Text.toBytes t

/-- A line of the file of words in the directory with a name has a word in front. -/
def HasWord (f : FileTree) (root name w : Text) : Prop :=
  ∃ t, f.bytes? (wordPath root name) = some (Text.toBytes t) ∧
    ∃ line ∈ Text.lines t, FrontWord line w

variable {f : FileTree} {unseen : Unseen} {root name w : Text} {place : Place} {d : DocId}
  {names ws : List Text} {listing : List (Text × Node)} {e : Error}

/-! ## One file -/

theorem Readable.garbled_iff (h : Readable f unseen root place) (hpage : HasPage f place d name) :
    Garbled f unseen (Path.join root name) ↔ Undecodable f root name := by
  obtain ⟨hseen, hread⟩ := h.words d name hpage
  unfold wordPath at hseen hread
  rw [Garbled, Undecodable, FileTree.isFile_eq, FileTree.read?, wordPath]
  cases f.bytes? (Path.join (Path.join root name) wordFile) with
  | none => simp
  | some content => simp [hseen, hread, Text.ofBytes?_eq_none_iff]

/-- Where nothing is refused, only the content of the file counts. -/
theorem Readable.wordsIn_eq (h : Readable f unseen root place) (hpage : HasPage f place d name) :
    wordsIn f (Path.join root name) unseen =
      (f.bytes? (wordPath root name)).elim (.ok []) fun content =>
        (Text.ofBytes? content).elim (.error .inaccessible) fun t => .ok (wordsOfLines t) := by
  obtain ⟨hseen, hread⟩ := h.words d name hpage
  unfold wordPath at hseen hread
  simp only [wordsIn, FileTree.isFile_eq, FileTree.read?, hseen, hread, wordPath]
  cases f.bytes? (Path.join (Path.join root name) wordFile) with
  | none => rfl
  | some content => cases htext : Text.ofBytes? content <;> simp [htext]

theorem Readable.wordsIn_eq_ok_iff (h : Readable f unseen root place)
    (hpage : HasPage f place d name) :
    wordsIn f (Path.join root name) unseen = .ok ws ↔ HasWords f root name ws := by
  rw [h.wordsIn_eq hpage]
  constructor
  · intro hok
    cases hbytes : f.bytes? (wordPath root name) with
    | none =>
      rw [hbytes] at hok
      cases hok
      exact .missing hbytes
    | some content =>
      cases htext : Text.ofBytes? content with
      | none =>
        rw [hbytes, Option.elim_some, htext] at hok
        cases hok
      | some t =>
        rw [hbytes, Option.elim_some, htext] at hok
        cases hok
        rw [Text.ofBytes?_eq_some_iff.mp htext] at hbytes
        exact .file hbytes (firstWords_iff.mpr rfl)
  · intro hhas
    cases hhas with
    | missing hbytes => rw [hbytes, Option.elim_none]
    | file hbytes hlines =>
      rw [hbytes, Option.elim_some, Text.ofBytes?_toBytes, Option.elim_some,
        ← firstWords_iff.mp hlines]

theorem HasWord.isWord (h : HasWord f root name w) : IsWord w := by
  obtain ⟨_, _, _, _, hfront⟩ := h
  exact hfront.isWord

theorem HasWords.mem_iff (h : HasWords f root name ws) : w ∈ ws ↔ HasWord f root name w := by
  cases h with
  | missing hbytes =>
    refine iff_of_false List.not_mem_nil fun ⟨t, ht, _⟩ => ?_
    rw [hbytes] at ht
    cases ht
  | @file t _ hbytes hlines =>
    rw [hlines.mem_iff]
    refine ⟨fun hw => ⟨t, hbytes, hw⟩, fun ⟨t', ht', hw⟩ => ?_⟩
    rw [hbytes, Option.some.injEq, Text.toBytes_inj] at ht'
    exact ht' ▸ hw

/-! ## One file after another -/

theorem Readable.wordsInAll_eq_ok_iff (h : Readable f unseen root place)
    (hpages : ∀ name ∈ names, HasPage f place d name) :
    wordsInAll f unseen (names.map (Path.join root)) = .ok ws ↔ Collects f root names ws := by
  induction names generalizing ws with
  | nil =>
    constructor
    · rintro ⟨⟩
      exact .nil
    · rintro ⟨⟩
      rfl
  | cons name names ih =>
    obtain ⟨hpage, hpages⟩ := List.forall_mem_cons.mp hpages
    rw [List.map_cons, wordsInAll]
    constructor
    · intro hok
      cases hfirst : wordsIn f (Path.join root name) unseen with
      | error e => rw [hfirst] at hok; cases hok
      | ok part =>
        cases hrest : wordsInAll f unseen (names.map (Path.join root)) with
        | error e => rw [hfirst, hrest] at hok; cases hok
        | ok more =>
          rw [hfirst, hrest] at hok
          cases hok
          exact .cons ((h.wordsIn_eq_ok_iff hpage).mp hfirst) ((ih hpages).mp hrest)
    · rintro ⟨⟩
      rename_i hfirst hrest
      rw [(h.wordsIn_eq_ok_iff hpage).mpr hfirst, (ih hpages).mpr hrest]
      rfl

theorem Collects.mem_iff (h : Collects f root names ws) :
    w ∈ ws ↔ ∃ name ∈ names, HasWord f root name w := by
  induction h with
  | nil => simp
  | cons hfirst _ ih =>
    simp only [List.mem_append, hfirst.mem_iff, ih, List.mem_cons, exists_eq_or_imp]

end Pages

end Concordance

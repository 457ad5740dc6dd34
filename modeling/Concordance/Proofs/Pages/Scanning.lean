import Concordance.Pages
import Concordance.Proofs.Text.ByteOrder
import Concordance.Proofs.Text.Cutting
import Concordance.Proofs.Text.Numbers

/-!
# Which directories a scan finds

The directories of a document are those whose names spell its number (`IsPageOf`), among what is
right below the directory that is scanned (`HasPage`). A scan collects them by document, one entry
after another in the order of the names, so what it has collected for a document is what it has met
so far (`namesOf`), and no order of the listing can be told from it.

The scan is `DirLemmaSource.open`, and `page_doc_id` reads the names.

* **`pageOf?_eq_some_iff`**: whose directory has a name.
* `getD_foldl_addEntry`, `isSome_foldl_addEntry`: what some entries add to what was collected.
* **`dirsOf_perm`**: the listing may be in any order.
* **`mem_pageNames`**, **`pairwise_pageNames`**: the directories of a document, in byte order.
-/

namespace Concordance

/-! ## Names -/

/-- A name is that of a directory of a document: digits of its number follow the mark. -/
def IsPageOf (name : Text) (d : DocId) : Prop :=
  d ≠ 0 ∧ ∃ digits, name = pageMark ++ digits ∧ digits ≠ [] ∧ (∀ c ∈ digits, c.isDigit = true) ∧
    Nat.ofDigitChars 10 digits 0 = d.toNat

/-- **Whose directory has a name.** -/
theorem pageOf?_eq_some_iff {name : Text} {d : DocId} :
    pageOf? name = some d ↔ IsPageOf name d := by
  simp only [pageOf?, IsPageOf, Option.bind_eq_bind, Option.bind_eq_some_iff,
    Text.dropLead_eq_some_iff, Text.ofDigits?_eq_some_iff, DocId.ofNat?_eq_some_iff]
  constructor
  · rintro ⟨digits, rfl, d', ⟨n, ⟨hne, hdigit, rfl⟩, hvalue⟩, hd⟩
    split at hd
    · cases hd
    · rename_i hzero
      cases hd
      exact ⟨hzero, digits, rfl, hne, hdigit, hvalue.symm⟩
  · rintro ⟨hzero, digits, rfl, hne, hdigit, hvalue⟩
    exact ⟨digits, rfl, d, ⟨_, ⟨hne, hdigit, rfl⟩, hvalue.symm⟩, if_neg hzero⟩

/-- A directory has a directory of a document, with a name. -/
structure HasPage (f : FileTree) (place : Place) (d : DocId) (name : Text) : Prop where
  named : IsPageOf name d
  dir : ∃ mode, f.node? (place ++ [name]) = some (.dir mode)

namespace Pages

variable {f : FileTree} {place : Place} {root name : Text} {d : DocId} {node : Node}
  {listing l : List (Text × Node)} {m : AscMap DocId (List Text)}

theorem pageIn?_eq_some_iff :
    pageIn? (name, node) = some d ↔ IsPageOf name d ∧ ∃ mode, node = .dir mode := by
  cases node <;> simp [pageIn?, pageOf?_eq_some_iff]

/-! ## Collecting -/

/-- The names of a document's directories among what is in a directory. -/
def namesOf (d : DocId) (l : List (Text × Node)) : List Text :=
  (l.filter fun e => pageIn? e = some d).map (·.1)

theorem get?_addEntry {e : Text × Node} : (addEntry root m e).get? d =
    if pageIn? e = some d then some (m.getD d [] ++ [Path.join root e.1]) else m.get? d := by
  unfold addEntry
  cases pageIn? e with
  | none => rfl
  | some d' =>
    rw [AscMap.get?_insert]
    by_cases hd : d = d'
    · subst hd
      rw [if_pos rfl, if_pos rfl]
    · rw [if_neg hd, if_neg fun he => hd (Option.some.inj he).symm]

theorem getD_foldl_addEntry : (l.foldl (addEntry root) m).getD d [] =
    m.getD d [] ++ (namesOf d l).map (Path.join root) := by
  induction l generalizing m with
  | nil => exact (List.append_nil _).symm
  | cons e l ih =>
    rw [List.foldl_cons, ih, AscMap.getD, get?_addEntry, namesOf, namesOf, List.filter_cons]
    by_cases he : pageIn? e = some d
    · rw [if_pos he, if_pos (decide_eq_true he), Option.getD_some, List.append_assoc]
      rfl
    · rw [if_neg he, if_neg (by simpa using he)]
      rfl

theorem isSome_foldl_addEntry : ((l.foldl (addEntry root) m).get? d).isSome = true ↔
    (m.get? d).isSome = true ∨ namesOf d l ≠ [] := by
  induction l generalizing m with
  | nil => simp [namesOf]
  | cons e l ih =>
    rw [List.foldl_cons, ih, get?_addEntry, namesOf, namesOf, List.filter_cons]
    by_cases he : pageIn? e = some d <;> simp [he]

/-! ## The directories of a document -/

/-- The names of a document's directories among what is listed, in ascending order. -/
def pageNames (listing : List (Text × Node)) (d : DocId) : List Text :=
  namesOf d (AscMap.ofList listing).toList

theorem getD_dirsOf :
    (dirsOf root listing).getD d [] = (pageNames listing d).map (Path.join root) :=
  getD_foldl_addEntry.trans (List.nil_append _)

theorem mem_keys_dirsOf : d ∈ (dirsOf root listing).keys ↔ pageNames listing d ≠ [] := by
  rw [AscMap.mem_keys, dirsOf, isSome_foldl_addEntry]
  exact or_iff_right Bool.false_ne_true

/-- **The directories of a document are in the order of the bytes of their names.** -/
theorem pairwise_pageNames :
    (pageNames listing d).Pairwise fun a b => Text.bytes a < Text.bytes b := by
  rw [pageNames, namesOf, List.pairwise_map]
  exact ((AscMap.ofList listing).ascending.filter _).imp Text.bytes_lt_iff.mpr

theorem eq_of_mem_children (name : Text) (node node' : Node) (h : (name, node) ∈ f.children place)
    (h' : (name, node') ∈ f.children place) : node = node' := by
  rw [FileTree.mem_children] at h h'
  exact Option.some.inj (h.symm.trans h')

/-- **The directories of a document** are those right below that have its number. -/
theorem mem_pageNames : name ∈ pageNames (f.children place) d ↔ HasPage f place d name := by
  simp only [pageNames, namesOf, List.mem_map, List.mem_filter, decide_eq_true_eq, Prod.exists,
    AscMap.mem_toList_iff, AscMap.get?_ofList_eq_some_iff eq_of_mem_children,
    FileTree.mem_children, pageIn?_eq_some_iff]
  constructor
  · rintro ⟨_, _, ⟨hnode, hnamed, mode, rfl⟩, rfl⟩
    exact ⟨hnamed, mode, hnode⟩
  · rintro ⟨hnamed, mode, hnode⟩
    exact ⟨name, _, ⟨hnode, hnamed, mode, rfl⟩, rfl⟩

/-- **The listing may be in any order.** -/
theorem dirsOf_perm (h : listing.Perm (f.children place)) :
    dirsOf root listing = dirsOf root (f.children place) := by
  rw [dirsOf, AscMap.ofList_perm eq_of_mem_children h, dirsOf]

end Pages

end Concordance

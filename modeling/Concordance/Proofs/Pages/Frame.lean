import Concordance.Proofs.Pages.Directory

/-!
# What does not count for a directory of word lists

What is taken from a directory depends on what is below it and on nothing else, if no file of words
is a link: two trees in which a path leads to the same directory, with the same below it, give the
same documents and the same words, or fail in the same way.

* **`SameBelow.bytes?_wordPath`**: the files of words are the same.
* `SameBelow.under_eq`: so are the directories of documents.
* **`SameBelow.ofDirectory_eq`**: so is all that is taken from the directory.
-/

namespace Concordance

open FileTree (Unseen Usable maxName)

variable {f g : FileTree} {unseen : Unseen} {root name : Text} {place : Place} {d : DocId}

/-- A path that leads to a file has names that are not too long, and is not too long itself. -/
theorem FileTree.fits_of_bytes? {p : Text} {content : ByteArray} (h : f.bytes? p = some content) :
    Usable p ∧ ∀ name ∈ steps p, (Text.toBytes name).size ≤ maxName := by
  unfold bytes? at h
  split at h
  case h_2 => cases h
  case h_1 hfind =>
    obtain ⟨⟨s, hwalk, -⟩, -⟩ := find?_eq_some_iff.mp hfind
    obtain ⟨husable, hleads⟩ := walk_eq_ok_iff.mp hwalk
    exact ⟨husable, fun _ => hleads.size_le⟩

namespace Pages

/-- In two trees, a path leads to a directory at one place, with the same below it, and the files of
words right below are no links. -/
structure SameBelow (f g : FileTree) (root : Text) (place : Place) : Prop where
  leads : ∃ mode, f.find? root = some (place, .dir mode)
  leads_again : ∃ mode, g.find? root = some (place, .dir mode)
  node : ∀ q, q ≠ [] → g.node? (place ++ q) = f.node? (place ++ q)
  not_link : ∀ name target, f.node? (place ++ [name, wordFile]) ≠ some (.link target)

/-! ## The files of words -/

theorem SameBelow.hasPage_iff (h : SameBelow f g root place) :
    HasPage g place d name ↔ HasPage f place d name := by
  have hnode := h.node [name] (List.cons_ne_nil _ _)
  exact ⟨fun ⟨hnamed, hdir⟩ => ⟨hnamed, hnode ▸ hdir⟩, fun ⟨hnamed, hdir⟩ => ⟨hnamed, hnode ▸ hdir⟩⟩

/-- Where nothing is refused, a directory that a path leads to can be read. -/
theorem readable_of_leads (h : ∃ mode, f.find? root = some (place, .dir mode)) :
    Readable f .none root place :=
  ⟨h, rfl, rfl, fun _ _ _ => ⟨rfl, rfl⟩⟩

/-- **The files of words are the same.** -/
theorem SameBelow.bytes?_wordPath (h : SameBelow f g root place) (hpage : HasPage f place d name) :
    g.bytes? (wordPath root name) = f.bytes? (wordPath root name) := by
  have hnode := h.node [name, wordFile] (List.cons_ne_nil _ _)
  have hlink := h.not_link name
  by_cases hfits : Usable (wordPath root name) ∧ (Text.toBytes name).size ≤ maxName
  · obtain ⟨husable, hsize⟩ := hfits
    rw [(readable_of_leads h.leads).bytes?_wordPath hpage husable hsize hlink,
      (readable_of_leads h.leads_again).bytes?_wordPath (h.hasPage_iff.mpr hpage) husable hsize
        (hnode ▸ hlink), hnode]
  · -- A path that cannot be followed leads nowhere in either tree.
    have hnone (t : FileTree) : t.bytes? (wordPath root name) = none := by
      refine Option.eq_none_iff_forall_ne_some.mpr fun content hcontent => hfits ?_
      obtain ⟨husable, hsizes⟩ := FileTree.fits_of_bytes? hcontent
      refine ⟨husable, hsizes name ?_⟩
      rw [steps_wordPath hpage.named]
      exact List.mem_append_right _ List.mem_cons_self
    rw [hnone, hnone]

theorem SameBelow.wordsIn_eq (h : SameBelow f g root place) (hpage : HasPage f place d name) :
    wordsIn g (Path.join root name) unseen = wordsIn f (Path.join root name) unseen := by
  have hbytes := h.bytes?_wordPath hpage
  rw [wordPath] at hbytes
  simp only [wordsIn, FileTree.isFile_eq, FileTree.read?, hbytes]

/-- The words of directories of a document are the same. -/
theorem SameBelow.wordsInAll_eq (h : SameBelow f g root place) {names : List Text}
    (hpages : ∀ name ∈ names, HasPage f place d name) :
    wordsInAll g unseen (names.map (Path.join root)) =
      wordsInAll f unseen (names.map (Path.join root)) := by
  induction names with
  | nil => rfl
  | cons name names ih =>
    obtain ⟨hpage, hpages⟩ := List.forall_mem_cons.mp hpages
    rw [List.map_cons, wordsInAll, wordsInAll, h.wordsIn_eq hpage, ih hpages]

/-! ## The documents -/

/-- The directories of documents are the same. -/
theorem SameBelow.under_eq (h : SameBelow f g root place) :
    under g root place = under f root place := by
  have hlisting : AscMap.ofList (g.children place) = AscMap.ofList (f.children place) := by
    refine AscMap.ext_get? fun name => Option.ext fun node => ?_
    rw [AscMap.get?_ofList_eq_some_iff eq_of_mem_children,
      AscMap.get?_ofList_eq_some_iff eq_of_mem_children, FileTree.mem_children,
      FileTree.mem_children, h.node [name] (List.cons_ne_nil _ _)]
  rw [under, under, dirsOf, dirsOf, hlisting]

/-- The words of a document are the same. -/
theorem SameBelow.words_eq (h : SameBelow f g root place) :
    (under f root place).words g d unseen = (under f root place).words f d unseen := by
  rw [words_under, words_under]
  exact h.wordsInAll_eq fun name => mem_pageNames.mp

end Pages

namespace Builder

open Pages

theorem ingestPages_congr {p : Pages} (h : ∀ d, p.words g d unseen = p.words f d unseen)
    (b : Builder) (ds : List DocId) :
    ingestPages b g p unseen ds = ingestPages b f p unseen ds := by
  induction ds generalizing b with
  | nil => rfl
  | cons d ds ih => simp only [ingestPages, ingestPage, h, ih]

end Builder

/-- **What is taken from a directory** depends on what is below it alone. -/
theorem Pages.SameBelow.ofDirectory_eq (h : SameBelow f g root place) :
    Builder.ofDirectory g root unseen = Builder.ofDirectory f root unseen := by
  obtain ⟨mode, hf⟩ := h.leads
  obtain ⟨mode', hg⟩ := h.leads_again
  rw [Builder.ofDirectory, Builder.ofDirectory, scan_of_find? hg, scan_of_find? hf, h.under_eq]
  cases unseen (.see root) with
  | true => rfl
  | false =>
    cases unseen (.list root) with
    | true => rfl
    | false => exact Builder.ingestPages_congr (fun _ => h.words_eq) ∅ _

end Concordance

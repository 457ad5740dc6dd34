import Concordance.Proofs.File.Below
import Concordance.Proofs.Pages.Words

/-!
# What is taken from a directory of word lists

A directory that can be read is scanned, whatever order it is listed in, and from then on the words
of each document are known: those of its directories, one after another. An index that is built from
them has a document under a word if a line of one of its files has the word in front.

The scan is `DirLemmaSource.open`, the words are those of `lemmas`, and the index is that of
`IndexBuilder.build`.

* `Readable.scan_eq`, **`mem_documents`**: the documents that a scan finds.
* **`Readable.words_eq_ok_iff`**, `Readable.words_eq_error_iff`: the words of a document.
* **`Readable.bytes?_wordPath`**: a file of words is what is in the directory under its name.
* **`Builder.ofDirectory_exact`**: all that is taken from a directory (`OnDisk`).
-/

namespace Concordance

open FileTree (Unseen Usable IsName maxName)

namespace Pages

variable {f : FileTree} {unseen : Unseen} {root name w : Text} {place : Place} {d : DocId}
  {ws : List Text} {e : Error}

/-! ## The documents and their words -/

/-- What a scan of a directory finds. -/
def under (f : FileTree) (root : Text) (place : Place) : Pages :=
  ⟨root, dirsOf root (f.children place)⟩

/-- A scan finds what is under the directory that a path leads to, unless it is refused. -/
theorem scan_of_find? {mode : Nat} (h : f.find? root = some (place, .dir mode)) :
    scan f root unseen =
      if unseen (.see root) then .error (.notFound root)
      else if unseen (.list root) then .error .inaccessible else .ok (under f root place) := by
  have hlist : f.list? root = some (f.children place) := by rw [FileTree.list?, h]
  rw [scan, hlist]
  cases unseen (.see root) <;> rfl

theorem Readable.scan_eq (h : Readable f unseen root place) :
    scan f root unseen = .ok (under f root place) := by
  obtain ⟨mode, hfind⟩ := h.leads
  rw [scan_of_find? hfind, h.seen, if_neg Bool.false_ne_true, h.listed, if_neg Bool.false_ne_true]

/-- **The documents** are those with a directory right below. -/
theorem mem_documents : d ∈ (under f root place).documents ↔ ∃ name, HasPage f place d name := by
  rw [documents, AscSet.mem_toList, under, mem_keys_dirsOf]
  simp only [← mem_pageNames]
  exact ⟨List.exists_mem_of_ne_nil _, fun ⟨_, hname⟩ => List.ne_nil_of_mem hname⟩

theorem words_under {g : FileTree} : (under f root place).words g d unseen =
    wordsInAll g unseen ((pageNames (f.children place) d).map (Path.join root)) := by
  rw [words, under, getD_dirsOf]

/-- **The words of a document** are those of its directories, one after another. -/
theorem Readable.words_eq_ok_iff (h : Readable f unseen root place) :
    (under f root place).words f d unseen = .ok ws ↔
      Collects f root (pageNames (f.children place) d) ws := by
  rw [words_under, h.wordsInAll_eq_ok_iff fun name => mem_pageNames.mp]

theorem Readable.exists_garbled_iff (h : Readable f unseen root place) :
    (∃ dir ∈ (under f root place).dirs.getD d [], Garbled f unseen dir) ↔
      ∃ name, HasPage f place d name ∧ Undecodable f root name := by
  rw [under, getD_dirsOf]
  constructor
  · rintro ⟨dir, hdir, hgarbled⟩
    obtain ⟨name, hname, rfl⟩ := List.mem_map.mp hdir
    have hpage := mem_pageNames.mp hname
    exact ⟨name, hpage, (h.garbled_iff hpage).mp hgarbled⟩
  · rintro ⟨name, hpage, hundecodable⟩
    exact ⟨_, List.mem_map_of_mem (mem_pageNames.mpr hpage),
      (h.garbled_iff hpage).mpr hundecodable⟩

theorem Readable.words_eq_error_iff (h : Readable f unseen root place) :
    (under f root place).words f d unseen = .error e ↔
      (∃ name, HasPage f place d name ∧ Undecodable f root name) ∧ e = .inaccessible := by
  rw [Pages.words, wordsInAll_eq_error_iff, h.exists_garbled_iff]

theorem words_of_not_mem (h : d ∉ (under f root place).documents) :
    (under f root place).words f d unseen = .ok [] := by
  have hnames : pageNames (f.children place) d = [] := by
    refine List.eq_nil_iff_forall_not_mem.mpr fun name hname => h ?_
    exact mem_documents.mpr ⟨name, mem_pageNames.mp hname⟩
  rw [words_under, hnames]
  rfl

end Pages

/-! ## The files of words -/

/-- The content of a file. -/
def Node.content? : Node → Option ByteArray
  | .file _ content => some content
  | _ => none

theorem IsPageOf.not_mem_slash {name : Text} {d : DocId} (h : IsPageOf name d) : '/' ∉ name := by
  obtain ⟨-, digits, rfl, -, hdigit, -⟩ := h
  intro hslash
  rcases List.mem_append.mp hslash with hmark | hmem
  · exact absurd hmark (by decide)
  · exact absurd (hdigit _ hmem) (by decide)

theorem IsPageOf.ne_nil {name : Text} {d : DocId} (h : IsPageOf name d) : name ≠ [] := by
  obtain ⟨-, digits, rfl, -⟩ := h
  nofun

theorem IsPageOf.isName {name : Text} {d : DocId} (h : IsPageOf name d)
    (hsize : (Text.toBytes name).size ≤ maxName) : IsName name := by
  obtain ⟨-, digits, rfl, -⟩ := h
  exact ⟨nofun, nofun, hsize⟩

namespace Pages

variable {f : FileTree} {unseen : Unseen} {root name w : Text} {place : Place} {d : DocId}

theorem steps_wordPath (h : IsPageOf name d) :
    FileTree.steps (wordPath root name) = FileTree.names root ++ [name, wordFile] := by
  rw [wordPath, FileTree.steps_join rfl (by decide),
    FileTree.names_join (Path.isAbsolute_of_not_mem h.not_mem_slash),
    FileTree.names_of_not_mem h.not_mem_slash h.ne_nil, List.append_assoc]
  rfl

/-- **A file of words is what is in the directory under its name**, unless this is a link, or the
path or a name in it is too long. -/
theorem Readable.bytes?_wordPath (h : Readable f unseen root place) (hpage : HasPage f place d name)
    (husable : Usable (wordPath root name)) (hsize : (Text.toBytes name).size ≤ maxName)
    (hlink : ∀ target, f.node? (place ++ [name, wordFile]) ≠ some (.link target)) :
    f.bytes? (wordPath root name) =
      (f.node? (place ++ [name, wordFile])).bind Node.content? := by
  obtain ⟨mode, hfind⟩ := h.leads
  obtain ⟨mode', hdir⟩ := hpage.dir
  have hplace : place ++ [name, wordFile] = place ++ [name] ++ [wordFile] := by
    rw [List.append_assoc, List.singleton_append]
  have hname := hpage.named.isName hsize
  have hfile : IsName wordFile := ⟨by decide, by decide, by decide⟩
  have hstart : FileTree.start f.here (wordPath root name) = FileTree.start f.here root := by
    have hrelative := Path.isAbsolute_of_not_mem hpage.named.not_mem_slash
    rw [FileTree.start, FileTree.start, wordPath, Path.isAbsolute_join rfl,
      Path.isAbsolute_join hrelative]
  have hwalk {s : Spot} := FileTree.walk_below (s := s) hfind husable hstart
    (steps_wordPath hpage.named)
  rw [hplace] at hlink ⊢
  rw [FileTree.bytes?, FileTree.find?]
  cases hnode : f.node? (place ++ [name] ++ [wordFile]) with
  | none => rw [hwalk fun n => .enter hname hdir (.free hfile hnode)]; rfl
  | some node =>
    cases node with
    | file mode content =>
      rw [hwalk fun n => .enter hname hdir (.file hfile hnode)]
      simp only [hnode]
      rfl
    | dir mode =>
      rw [hwalk fun n => .enter hname hdir (.enter hfile hnode (.stop n _))]
      simp only [hnode]
      rfl
    | link target => exact absurd hnode (hlink target)

end Pages

namespace Builder

open Pages

variable {f : FileTree} {unseen : Unseen} {root name w : Text} {place : Place} {d : DocId}

/-! ## Building -/

/-- Each document that is taken adds its own words. -/
theorem mem_postings_ingestPages {p : Pages} {ds : List DocId} {b c : Builder}
    (h : ingestPages b f p unseen ds = .ok c) : d ∈ c.index.postings w ↔
      (d ∈ ds ∧ ∃ ws, p.words f d unseen = .ok ws ∧ ∃ t ∈ ws, Text.Spells t w) ∨
        d ∈ b.index.postings w := by
  induction ds generalizing b with
  | nil =>
    cases h
    simp
  | cons e ds ih =>
    rw [ingestPages, ingestPage] at h
    cases hwords : p.words f e unseen with
    | error err => rw [hwords] at h; cases h
    | ok ws =>
      rw [hwords] at h
      rw [ih h, mem_postings_add, List.mem_cons]
      constructor
      · rintro (⟨hd, hw⟩ | ⟨rfl, hw⟩ | hd)
        · exact .inl ⟨.inr hd, hw⟩
        · exact .inl ⟨.inl rfl, ws, hwords, hw⟩
        · exact .inr hd
      · rintro (⟨rfl | hd, hw⟩ | hd)
        · obtain ⟨ws', hwords', hw⟩ := hw
          rw [hwords] at hwords'
          cases hwords'
          exact .inr (.inl ⟨rfl, hw⟩)
        · exact .inl ⟨hd, hw⟩
        · exact .inr (.inr hd)

theorem ofDirectory_eq (h : Readable f unseen root place) : ofDirectory f root unseen =
    ingestPages ∅ f (under f root place) unseen (under f root place).documents := by
  rw [ofDirectory, h.scan_eq]
  rfl

/-- An index is built from a directory unless a file of words is no text. -/
theorem exists_ofDirectory_iff (h : Readable f unseen root place) :
    (∃ b, ofDirectory f root unseen = .ok b) ↔
      ∀ d name, HasPage f place d name → ¬ Undecodable f root name := by
  have herror {e : Error} : ofDirectory f root unseen = .error e ↔
      (∃ d, ∃ name, HasPage f place d name ∧ Undecodable f root name) ∧ e = .inaccessible := by
    rw [ofDirectory_eq h, ingestPages_eq_error_iff]
    simp only [h.exists_garbled_iff]
    refine and_congr_left fun _ => exists_congr fun d => and_iff_right_of_imp fun hd => ?_
    exact mem_documents.mpr (hd.imp fun _ => And.left)
  constructor
  · rintro ⟨b, hb⟩ d name hpage hundecodable
    rw [herror.mpr ⟨⟨d, name, hpage, hundecodable⟩, rfl⟩] at hb
    cases hb
  · intro hall
    cases hbuilt : ofDirectory f root unseen with
    | ok b => exact ⟨b, rfl⟩
    | error e =>
      obtain ⟨⟨d, name, hpage, hundecodable⟩, -⟩ := herror.mp hbuilt
      exact absurd hundecodable (hall d name hpage)

/-- **A document is under a word** if a line of one of its files has the word in front. -/
theorem mem_postings_ofDirectory (h : Readable f unseen root place) {b : Builder}
    (hb : ofDirectory f root unseen = .ok b) :
    d ∈ b.index.postings w ↔ ∃ name, HasPage f place d name ∧ HasWord f root name w := by
  have hread := (exists_ofDirectory_iff h).mp ⟨b, hb⟩
  rw [ofDirectory_eq h] at hb
  have hnew : d ∉ (∅ : Builder).index.postings w := AscSet.not_mem_empty d
  rw [mem_postings_ingestPages hb, or_iff_left hnew]
  constructor
  · rintro ⟨-, ws, hwords, t, ht, hspells⟩
    obtain ⟨name, hname, hword⟩ := (h.words_eq_ok_iff.mp hwords).mem_iff.mp ht
    have htw : t = w := (spells_iff_of_isWord hword.isWord).mp hspells
    exact ⟨name, mem_pageNames.mp hname, htw ▸ hword⟩
  · rintro ⟨name, hpage, hword⟩
    refine ⟨mem_documents.mpr ⟨name, hpage⟩, ?_⟩
    -- The words of the document could be read, since the index was built.
    cases hwords : (under f root place).words f d unseen with
    | error e =>
      obtain ⟨⟨name, hpage, hundecodable⟩, -⟩ := h.words_eq_error_iff.mp hwords
      exact absurd hundecodable (hread d name hpage)
    | ok ws =>
      have hmem : w ∈ ws :=
        (h.words_eq_ok_iff.mp hwords).mem_iff.mpr ⟨name, mem_pageNames.mpr hpage, hword⟩
      exact ⟨ws, rfl, w, hmem, (spells_iff_of_isWord hword.isWord).mpr rfl⟩

/-- What a scan of a directory finds, and what is taken from it, is what is on disk. -/
structure OnDisk (f : FileTree) (unseen : Unseen) (root : Text) (place : Place) (p : Pages) :
    Prop where
  scanned : Pages.scan f root unseen = .ok p
  /-- The order that the directory is listed in does not matter. -/
  listing : ∀ listing, listing.Perm (f.children place) → p = ⟨root, dirsOf root listing⟩
  ascending : p.documents.Pairwise (· < ·)
  /-- The documents are those with a directory right below. -/
  documents : ∀ d, d ∈ p.documents ↔ ∃ name, HasPage f place d name
  /-- The words of a document are those of its directories, one after another in the order of their
  names. -/
  words : ∀ d, ∃ names : List Text, names.Pairwise (fun a b => Text.bytes a < Text.bytes b) ∧
    (∀ name, name ∈ names ↔ HasPage f place d name) ∧
    ∀ ws, p.words f d unseen = .ok ws ↔ Collects f root names ws
  /-- Other documents have no words. -/
  absent : ∀ d, d ∉ p.documents → p.words f d unseen = .ok []
  /-- Words cannot be read if a file of them is no text, and for no other reason. -/
  unread : ∀ d e, p.words f d unseen = .error e ↔
    (∃ name, HasPage f place d name ∧ Undecodable f root name) ∧ e = .inaccessible
  /-- A file of words is what is in the directory under its name, unless this is a link, or the path
  or a name in it is too long. -/
  file : ∀ d name, HasPage f place d name → Usable (wordPath root name) →
    (Text.toBytes name).size ≤ maxName →
    (∀ target, f.node? (place ++ [name, wordFile]) ≠ some (.link target)) →
    f.bytes? (wordPath root name) = (f.node? (place ++ [name, wordFile])).bind Node.content?
  /-- An index is built unless a file of words is no text. -/
  built : (∃ b, ofDirectory f root unseen = .ok b) ↔
    ∀ d name, HasPage f place d name → ¬ Undecodable f root name
  /-- A document is under a word if a line of one of its files has the word in front. -/
  postings : ∀ b, ofDirectory f root unseen = .ok b → ∀ d w, d ∈ b.index.postings w ↔
    ∃ name, HasPage f place d name ∧ HasWord f root name w

/-- **What is taken from a directory is what is on disk**, for every directory that can be read. -/
theorem ofDirectory_exact (h : Readable f unseen root place) :
    ∃ p, OnDisk f unseen root place p :=
  ⟨under f root place, {
    scanned := h.scan_eq
    listing := fun listing hperm => by rw [dirsOf_perm hperm, under]
    ascending := (under f root place).dirs.keys.ascending
    documents := fun d => mem_documents
    words := fun d => ⟨_, pairwise_pageNames, fun name => mem_pageNames,
      fun ws => h.words_eq_ok_iff⟩
    absent := fun d => words_of_not_mem
    unread := fun d e => h.words_eq_error_iff
    file := fun d name => h.bytes?_wordPath
    built := exists_ofDirectory_iff h
    postings := fun b hb d w => mem_postings_ofDirectory h hb }⟩

/-- Two directories of one document, one of document 0, and a file and a link with names of
directories. -/
def shelved : FileTree :=
  ((((((((⟨∅, [], 0o022⟩ : FileTree).put [['p']] (.dir 0o755)).put
    [['p'], "page1".toList] (.dir 0o755)).put
    [['p'], "page1".toList, wordFile] (.file 0o644 (Text.toBytes " Owl owls\n".toList))).put
    [['p'], "page01".toList] (.dir 0o755)).put
    [['p'], "page01".toList, wordFile] (.file 0o644 (Text.toBytes "cat\n".toList))).put
    [['p'], "page0".toList] (.dir 0o755)).put
    [['p'], "page2".toList] (.file 0o644 .empty)).put
    [['p'], "page3".toList] (.link "page1".toList)

/-- The document has the words of both its directories, and it is the only one. -/
theorem ofDirectory_exact_shelved :
    Readable shelved .none ['p'] [['p']] ∧
      (∃ p, Pages.scan shelved ['p'] = .ok p ∧ p.documents = [1]) ∧
      ∃ b, ofDirectory shelved ['p'] = .ok b ∧ 1 ∈ b.index.postings "owl".toList ∧
        1 ∈ b.index.postings "cat".toList := by
  have h : Readable shelved .none ['p'] [['p']] :=
    ⟨⟨0o755, by rfl⟩, rfl, rfl, fun _ _ _ => ⟨rfl, rfl⟩⟩
  obtain ⟨p, hp⟩ := ofDirectory_exact h
  have hdocuments : p.documents = [1] := by
    rw [hp.listing _ (.refl _)]
    decide
  have hnames : pageNames (shelved.children [['p']]) 1 = ["page01".toList, "page1".toList] := by
    decide
  have howl : Pages.HasWord shelved ['p'] "page1".toList "owl".toList :=
    ⟨" Owl owls\n".toList, rfl, " Owl owls".toList, by decide, "Owl".toList,
      ⟨[' '], " owls".toList, rfl, rfl, by decide, fun c hc => by cases hc; rfl⟩, by decide⟩
  have hcat : Pages.HasWord shelved ['p'] "page01".toList "cat".toList :=
    ⟨"cat\n".toList, rfl, "cat".toList, by decide, "cat".toList,
      ⟨[], [], rfl, rfl, by decide, nofun⟩, by decide⟩
  obtain ⟨b, hb⟩ : ∃ b, ofDirectory shelved ['p'] = .ok b := by
    refine hp.built.mpr fun d name hpage ⟨content, hcontent, hnot⟩ => ?_
    have hd : d ∈ p.documents := (hp.documents d).mpr ⟨name, hpage⟩
    rw [hdocuments, List.mem_singleton] at hd
    subst hd
    have hname := mem_pageNames.mpr hpage
    rw [hnames, List.mem_cons, List.mem_singleton] at hname
    rcases hname with rfl | rfl
    · exact hnot "cat\n".toList (Option.some.inj (hcontent.symm.trans rfl))
    · exact hnot " Owl owls\n".toList (Option.some.inj (hcontent.symm.trans rfl))
  refine ⟨h, ⟨p, hp.scanned, hdocuments⟩, b, hb, ?_, ?_⟩
  · exact (hp.postings b hb 1 _).mpr ⟨_, mem_pageNames.mp (by rw [hnames]; decide), howl⟩
  · exact (hp.postings b hb 1 _).mpr ⟨_, mem_pageNames.mp (by rw [hnames]; decide), hcat⟩

end Builder

end Concordance

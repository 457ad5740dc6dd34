import Concordance.Proofs.Builder.Rearrangement

/-!
# Building from documents held in memory

Documents are put in with texts, one insertion after another, and a document may come back at any
time. A builder takes each document once, with the texts of all its insertions (`gathered`), where
`addAll` takes each insertion as a document. Both mention the same words of the same documents, so
the indexes are one. The counters are not: a builder from memory counts the documents and not the
insertions, and a document is without words if all its insertions are (`HasNoWord`).

The insertions are those of `MemoryLemmaSource`, and the builder is that of `IndexBuilder.build`.

* `pairwise_firstsBeyond`, `mem_firstsBeyond`: one pass with what was seen finds the first
  occurrences.
* `ofHoldings_eq`: taking the documents from memory is adding what was gathered.
* **`ofHoldings_exact`**: what a builder from memory holds (`TakenOnce`), and that it is the same in
  any order.
-/

namespace Concordance

/-- None of the additions of a document has a text that spells a word. -/
def HasNoWord (l : List (DocId × List Text)) (d : DocId) : Prop := ∀ e ∈ l, e.1 = d → IsWordless e

instance (l : List (DocId × List Text)) (d : DocId) : Decidable (HasNoWord l d) :=
  inferInstanceAs (Decidable (∀ e ∈ l, e.1 = d → IsWordless e))

namespace Holdings

variable {h : Holdings} {l m : List (DocId × List Text)} {d : DocId}

/-! ## First occurrences -/

section FirstsBeyond

variable {seen : AscSet DocId} {ds : List DocId}

theorem mem_firstsBeyond : d ∈ firstsBeyond seen ds ↔ d ∈ ds ∧ d ∉ seen := by
  induction ds generalizing seen with
  | nil => simp [firstsBeyond]
  | cons e ds ih =>
    rw [firstsBeyond]
    split
    case isTrue hseen =>
      rw [ih, List.mem_cons]
      exact ⟨fun ⟨hd, hnew⟩ => ⟨.inr hd, hnew⟩,
        fun ⟨hd, hnew⟩ => ⟨hd.resolve_left fun hde => hnew (hde ▸ hseen), hnew⟩⟩
    case isFalse hseen =>
      rw [List.mem_cons, ih, List.mem_cons, AscSet.mem_insert, not_or]
      by_cases hde : d = e
      · subst hde
        simp [hseen]
      · simp [hde]

/-- What comes out is in the order of the first occurrences. -/
theorem pairwise_firstsBeyond :
    (firstsBeyond seen ds).Pairwise fun a b => ds.idxOf a < ds.idxOf b := by
  induction ds generalizing seen with
  | nil => exact .nil
  | cons e ds ih =>
    -- Behind the head, first occurrences are one place further on, the head's own set aside.
    have hidx : ∀ a, a ≠ e → (e :: ds).idxOf a = ds.idxOf a + 1 := fun a ha => by
      rw [List.idxOf_cons, beq_false_of_ne (Ne.symm ha), cond_false]
    have hrest : ∀ s : AscSet DocId, e ∈ s →
        (firstsBeyond s ds).Pairwise fun a b => (e :: ds).idxOf a < (e :: ds).idxOf b := by
      intro s he
      have hne : ∀ a ∈ firstsBeyond s ds, a ≠ e := fun a ha hae =>
        (mem_firstsBeyond.mp ha).2 (hae ▸ he)
      refine ih.imp_of_mem fun ha hb hlt => ?_
      rw [hidx _ (hne _ ha), hidx _ (hne _ hb)]
      exact Nat.succ_lt_succ hlt
    rw [firstsBeyond]
    split
    case isTrue hseen => exact hrest seen hseen
    case isFalse hseen =>
      have he : e ∈ seen.insert e := AscSet.mem_insert.mpr (.inl rfl)
      refine .cons (fun b hb => ?_) (hrest _ he)
      have hbe : b ≠ e := fun hbe => (mem_firstsBeyond.mp hb).2 (hbe ▸ he)
      rw [List.idxOf_cons_self, hidx b hbe]
      exact Nat.succ_pos _

end FirstsBeyond

/-! ## What is held -/

theorem entries_insertAll : (h.insertAll l).entries = h.entries ++ l := by
  induction l generalizing h with
  | nil => exact (List.append_nil _).symm
  | cons e l ih =>
    change ((h.insert e.1 e.2).insertAll l).entries = _
    rw [ih, insert, List.append_assoc]
    rfl

theorem mem_documents : d ∈ h.documents ↔ ∃ e ∈ h.entries, e.1 = d := by
  rw [documents, mem_firstsBeyond, List.mem_map]
  exact and_iff_left (AscSet.not_mem_empty d)

theorem nodup_documents : h.documents.Nodup := by
  have hfirst : h.documents.Pairwise fun a b =>
      (h.entries.map (·.1)).idxOf a < (h.entries.map (·.1)).idxOf b := pairwise_firstsBeyond
  refine hfirst.imp fun hlt heq => ?_
  rw [heq] at hlt
  exact Nat.lt_irrefl _ hlt

theorem mem_texts {t : Text} : t ∈ h.texts d ↔ ∃ e ∈ h.entries, e.1 = d ∧ t ∈ e.2 := by
  simp only [texts, List.mem_flatMap, List.mem_filter, decide_eq_true_eq, and_assoc]

/-- Each document with all its texts. -/
def gathered (h : Holdings) : List (DocId × List Text) := h.documents.map fun d => (d, h.texts d)

theorem mentions_gathered {w : Text} : Mentions h.gathered d w ↔ Mentions h.entries d w := by
  simp only [Mentions, gathered, List.mem_map]
  constructor
  · rintro ⟨_, ⟨d', _, rfl⟩, rfl, t, ht, hw⟩
    obtain ⟨e, he, hd, hte⟩ := mem_texts.mp ht
    exact ⟨e, he, hd, t, hte, hw⟩
  · rintro ⟨e, he, rfl, t, ht, hw⟩
    have hd : e.1 ∈ h.documents := mem_documents.mpr ⟨e, he, rfl⟩
    exact ⟨_, ⟨e.1, hd, rfl⟩, rfl, t, mem_texts.mpr ⟨e, he, rfl, ht⟩, hw⟩

theorem isWordless_texts : IsWordless (d, h.texts d) ↔ HasNoWord h.entries d := by
  constructor
  · intro hd e he hed t ht
    exact hd t (mem_texts.mpr ⟨e, he, hed, ht⟩)
  · intro hd t ht
    obtain ⟨e, he, hed, hte⟩ := mem_texts.mp ht
    exact hd e he hed t hte

end Holdings

namespace Builder

open Holdings

variable {h : Holdings} {l m : List (DocId × List Text)}

/-- **Taking the documents from memory** is adding each with all its texts. -/
theorem ofHoldings_eq (h : Holdings) : ofHoldings h = addAll ∅ h.gathered := by
  rw [addAll, gathered, List.foldl_map]
  rfl

theorem index_ofHoldings (h : Holdings) : (ofHoldings h).index = (addAll ∅ h.entries).index := by
  rw [ofHoldings_eq]
  refine Index.ext_postings (fun w => ?_) fun w d => ?_
  · simp only [contains_addAll, mentions_gathered]
  · rw [mem_postings_addAll, mem_postings_addAll, mentions_gathered]

theorem documents_ofHoldings (h : Holdings) : (ofHoldings h).documents = h.documents.length := by
  rw [ofHoldings_eq, documents_addAll_from, gathered, List.length_map]
  exact Nat.zero_add _

theorem withoutWords_ofHoldings (h : Holdings) :
    (ofHoldings h).withoutWords = h.documents.countP fun d => HasNoWord h.entries d := by
  rw [ofHoldings_eq, withoutWords_addAll_from, gathered, List.countP_map]
  refine (Nat.zero_add _).trans (List.countP_congr fun d _ => ?_)
  simp only [Function.comp_apply, isWordless_texts]

/-- Insertions in another order give the same index and the same statistics. -/
theorem ofHoldings_perm (hperm : l.Perm m) : ofHoldings ⟨l⟩ = ofHoldings ⟨m⟩ := by
  have hdocuments : (Holdings.documents ⟨l⟩).Perm (Holdings.documents ⟨m⟩) := by
    rw [List.perm_ext_iff_of_nodup nodup_documents nodup_documents]
    simp only [mem_documents, hperm.mem_iff, implies_true]
  refine Builder.ext ?_ ?_ ?_
  · rw [index_ofHoldings, index_ofHoldings, addAll_eq_of_rearranged ∅ (.additions hperm)]
  · rw [documents_ofHoldings, documents_ofHoldings, hdocuments.length_eq]
  · have hwords : ∀ d, HasNoWord l d ↔ HasNoWord m d := fun d => by
      simp only [HasNoWord, hperm.mem_iff]
    rw [withoutWords_ofHoldings, withoutWords_ofHoldings, hdocuments.countP_eq]
    exact List.countP_congr fun d _ => by rw [decide_eq_true_eq, decide_eq_true_eq, hwords]

/-- What was put in is held, and taken from memory once for each document. -/
structure TakenOnce (l : List (DocId × List Text)) (h : Holdings) (b : Builder) : Prop where
  /-- The documents are in the order of their first insertions. -/
  order : h.documents.Pairwise fun a b => (l.map (·.1)).idxOf a < (l.map (·.1)).idxOf b
  nodup : h.documents.Nodup
  /-- The documents are those that were put in. -/
  documents : ∀ d, d ∈ h.documents ↔ d ∈ l.map (·.1)
  /-- The texts of a document are those of its insertions, one after another. -/
  texts : ∀ d, h.texts d = ((l.filter (·.1 = d)).map (·.2)).flatten
  /-- The index is that of adding every insertion by itself. -/
  index : b.index = (addAll ∅ l).index
  /-- The statistics count each document once. -/
  counted : b.stats.documents = h.documents.length
  /-- They count the documents without a word in any insertion. -/
  withoutWords : b.stats.withoutWords = (h.documents.filter fun d => HasNoWord l d).length
  words : b.stats.words = (addAll ∅ l).stats.words

theorem takenOnce_ofHoldings (l : List (DocId × List Text)) :
    TakenOnce l ⟨l⟩ (ofHoldings ⟨l⟩) where
  order := pairwise_firstsBeyond
  nodup := nodup_documents
  documents d := by rw [mem_documents, List.mem_map]
  texts d := by rw [Holdings.texts, List.flatMap_def]
  index := index_ofHoldings _
  counted := documents_ofHoldings _
  withoutWords := by rw [stats, withoutWords_ofHoldings, List.countP_eq_length_filter]
  words := by rw [stats, stats, index_ofHoldings]

/-- **Building from memory loses nothing and takes nothing twice**, and the order of the insertions
does not matter. -/
theorem ofHoldings_exact (l : List (DocId × List Text)) :
    TakenOnce l (.insertAll ∅ l) (ofHoldings (.insertAll ∅ l)) ∧
      ∀ m, l.Perm m → Alike (ofHoldings (.insertAll ∅ m)) (ofHoldings (.insertAll ∅ l)) := by
  have hentries (k : List (DocId × List Text)) : Holdings.insertAll ∅ k = ⟨k⟩ :=
    congrArg Holdings.mk entries_insertAll
  simp only [hentries]
  refine ⟨takenOnce_ofHoldings l, fun m hperm => ?_⟩
  rw [ofHoldings_perm hperm]
  exact .refl _

/-- A document that comes back after another one, and is without words the first time. -/
theorem ofHoldings_exact_back :
    let l := [(3, [" ".toList]), (1, ["owl".toList]), (3, ["cat".toList])]
    let m := [(3, ["cat".toList]), (3, [" ".toList]), (1, ["owl".toList])]
    l.Perm m ∧ (Holdings.insertAll ∅ l).documents = [3, 1] ∧
      (ofHoldings (.insertAll ∅ l)).stats = ⟨2, 0, 2⟩ ∧ (addAll ∅ l).stats = ⟨3, 1, 2⟩ ∧
      Alike (ofHoldings (.insertAll ∅ m)) (ofHoldings (.insertAll ∅ l)) := by
  intro l m
  have h : l.Perm m := by decide
  obtain ⟨-, halike⟩ := ofHoldings_exact l
  exact ⟨h, by decide, by decide, by decide, halike m h⟩

end Builder

end Concordance

import Concordance.Index.Lines
import Concordance.Proofs.Builder.Additions
import Concordance.Text.Utf8

/-!
# What a builder counts, and the order of additions

A builder holds what the additions mention and counts them, so nothing in it depends on their order,
nor on the order and the repetitions of the texts of one addition. `Rearranged` relates the lists of
additions that differ in nothing else. The two counters are sums along the list, and the index is
known by its words and their documents, so each is compared through what the list says by itself:

* `documents_addAll_from`, `withoutWords_addAll_from`: what the counters count.
* **`addAll_eq_of_rearranged`**: rearranged additions give one builder.
* **`addAll_exact`**: all that a new builder holds after some additions (`HoldsExactly`), and that
  it is the same for rearranged ones (`Alike`).

The counters are those of `BuildStats`, and the bytes those that `write_index` writes.
-/

namespace Concordance

/-! ## Indexes known by their documents -/

namespace Index

/-- Indexes with the same words and the same documents of each are equal. -/
theorem ext_postings {x y : Index} (hwords : ∀ w, x.contains w = true ↔ y.contains w = true)
    (hdocs : ∀ w d, d ∈ x.postings w ↔ d ∈ y.postings w) : x = y := by
  refine ext_get? fun w => ?_
  have hpostings : x.postings w = y.postings w := AscSet.ext_mem (hdocs w)
  have hword := hwords w
  rw [contains_iff, contains_iff] at hword
  unfold postings at hpostings
  cases hx : x.get? w with
  | none =>
    cases hy : y.get? w with
    | none => rfl
    | some ds =>
      obtain ⟨es, hes⟩ := hword.mpr ⟨ds, hy⟩
      rw [hx] at hes
      cases hes
  | some ds =>
    obtain ⟨es, hes⟩ := hword.mp ⟨ds, hx⟩
    rw [hx, hes] at hpostings
    rw [hes]
    exact congrArg some hpostings

/-- The words of an index, each once. -/
theorem nodup_words (x : Index) : (x.toList.map (·.1)).Nodup := by
  have hascending : (x.toList.map (·.1)).Pairwise (· < ·) := x.words.keys.ascending
  refine hascending.imp fun hlt heq => ?_
  rw [heq] at hlt
  exact Std.lt_irrefl hlt

theorem mem_words_iff {x : Index} {w : Text} : w ∈ x.toList.map (·.1) ↔ x.contains w = true :=
  AscMap.mem_keys (m := x.words)

end Index

/-! ## What the counters count -/

/-- An addition without a text that spells a word. -/
def IsWordless (e : DocId × List Text) : Prop := ∀ t ∈ e.2, ∀ w, ¬ Text.Spells t w

theorem isWordless_iff {e : DocId × List Text} :
    IsWordless e ↔ (e.2.filterMap wordOf?).isEmpty = true := by
  rw [List.isEmpty_iff, List.filterMap_eq_nil_iff]
  refine forall_congr' fun t => forall_congr' fun _ => ?_
  rw [Option.eq_none_iff_forall_ne_some]
  exact forall_congr' fun w => not_congr wordOf?_eq_some_iff.symm

instance (e : DocId × List Text) : Decidable (IsWordless e) :=
  decidable_of_iff _ isWordless_iff.symm

namespace Builder

variable {b : Builder} {l : List (DocId × List Text)} {w : Text}

theorem documents_addAll_from : (b.addAll l).documents = b.documents + l.length := by
  induction l generalizing b with
  | nil => rfl
  | cons e l ih =>
    calc ((b.add e.1 e.2).addAll l).documents
      _ = b.documents + 1 + l.length := ih
      _ = b.documents + (e :: l).length := by rw [List.length_cons]; omega

theorem withoutWords_add {e : DocId × List Text} :
    (b.add e.1 e.2).withoutWords = b.withoutWords + if IsWordless e then 1 else 0 := by
  simp only [add, isWordless_iff]

theorem withoutWords_addAll_from :
    (b.addAll l).withoutWords = b.withoutWords + l.countP fun e => IsWordless e := by
  induction l generalizing b with
  | nil => rfl
  | cons e l ih =>
    change ((b.add e.1 e.2).addAll l).withoutWords = _
    rw [ih, withoutWords_add, List.countP_cons]
    simp only [decide_eq_true_eq]
    omega

/-- No word is held without documents by a builder that was new before the additions. -/
theorem get?_addAll_ne_empty : (addAll ∅ l).index.get? w ≠ some ∅ := by
  intro h
  obtain ⟨d, hd⟩ := contains_addAll.mp (Index.contains_iff.mpr ⟨∅, h⟩)
  obtain ⟨ds, hds, hmem⟩ := Index.mem_postings.mp (mem_postings_addAll.mpr hd)
  rw [h] at hds
  cases hds
  exact AscSet.not_mem_empty d hmem

end Builder

/-! ## Rearranged additions -/

/-- Lists of additions that differ only in their order and in the order and the repetitions of the
texts of each addition. -/
inductive Rearranged : List (DocId × List Text) → List (DocId × List Text) → Prop where
  | additions {l m : List (DocId × List Text)} : l.Perm m → Rearranged l m
  | texts (l m : List (DocId × List Text)) {d : DocId} {ts us : List Text} :
    (∀ t, t ∈ ts ↔ t ∈ us) → Rearranged (l ++ (d, ts) :: m) (l ++ (d, us) :: m)
  | trans {k l m : List (DocId × List Text)} : Rearranged k l → Rearranged l m → Rearranged k m

section Rearranged

variable {l m : List (DocId × List Text)} {d : DocId} {w : Text}

theorem mentions_append : Mentions (l ++ m) d w ↔ Mentions l d w ∨ Mentions m d w := by
  simp only [Mentions, List.mem_append, or_and_right, exists_or]

theorem mentions_cons {e : DocId × List Text} :
    Mentions (e :: l) d w ↔ (e.1 = d ∧ ∃ t ∈ e.2, Text.Spells t w) ∨ Mentions l d w := by
  simp only [Mentions, List.mem_cons, exists_eq_or_imp]

namespace Rearranged

theorem mentions_iff (h : Rearranged l m) : Mentions l d w ↔ Mentions m d w := by
  induction h with
  | additions h => simp only [Mentions, h.mem_iff]
  | texts l m h => simp only [mentions_append, mentions_cons, h]
  | trans _ _ ih₁ ih₂ => exact ih₁.trans ih₂

theorem length_eq (h : Rearranged l m) : l.length = m.length := by
  induction h with
  | additions h => exact h.length_eq
  | texts => simp only [List.length_append, List.length_cons]
  | trans _ _ ih₁ ih₂ => exact ih₁.trans ih₂

theorem countP_isWordless_eq (h : Rearranged l m) :
    l.countP (fun e => IsWordless e) = m.countP fun e => IsWordless e := by
  induction h with
  | additions h => exact h.countP_eq _
  | @texts l m d ts us h =>
    have hwordless : IsWordless (d, ts) ↔ IsWordless (d, us) := by simp only [IsWordless, h]
    simp only [List.countP_append, List.countP_cons, hwordless]
  | trans _ _ ih₁ ih₂ => exact ih₁.trans ih₂

end Rearranged

end Rearranged

namespace Builder

/-- **Rearranged additions give one builder**, whatever it held before. -/
theorem addAll_eq_of_rearranged (b : Builder) {l m : List (DocId × List Text)}
    (h : Rearranged l m) : b.addAll l = b.addAll m := by
  have hindex : (b.addAll l).index = (b.addAll m).index := by
    refine Index.ext_postings (fun w => ?_) fun w d => ?_
    · simp only [contains_addAll_from, h.mentions_iff]
    · simp only [mem_postings_addAll_from, h.mentions_iff]
  have hdocuments : (b.addAll l).documents = (b.addAll m).documents := by
    rw [documents_addAll_from, documents_addAll_from, h.length_eq]
  have hwithout : (b.addAll l).withoutWords = (b.addAll m).withoutWords := by
    rw [withoutWords_addAll_from, withoutWords_addAll_from, h.countP_isWordless_eq]
  exact Builder.ext hindex hdocuments hwithout

/-! ## All that is held -/

/-- Builders that cannot be told apart by their index, their statistics or the bytes written of
them. -/
structure Alike (b c : Builder) : Prop where
  index : b.index = c.index
  stats : b.stats = c.stats
  bytes : Text.toBytes b.index.toText = Text.toBytes c.index.toText

theorem Alike.refl (b : Builder) : Alike b b := ⟨rfl, rfl, rfl⟩

/-- A builder holds exactly what some additions say. -/
structure HoldsExactly (l : List (DocId × List Text)) (b : Builder) : Prop where
  /-- The documents of a word are those that some addition gives a text that spells it. -/
  postings : ∀ d w, d ∈ b.index.postings w ↔ Mentions l d w
  /-- No word is held without documents. -/
  nonempty : ∀ w, b.index.get? w ≠ some ∅
  /-- A word is held if some addition mentions it. -/
  contains : ∀ w, b.index.contains w = true ↔ ∃ d, Mentions l d w
  /-- The statistics count the additions. -/
  documents : b.stats.documents = l.length
  /-- They count the additions without a word. -/
  withoutWords : b.stats.withoutWords = l.countP fun e => IsWordless e
  /-- They count the words that are mentioned, each once. -/
  words : ∃ words : List Text, words.Nodup ∧ (∀ w, w ∈ words ↔ ∃ d, Mentions l d w) ∧
    b.stats.words = words.length

theorem holdsExactly_addAll (l : List (DocId × List Text)) : HoldsExactly l (addAll ∅ l) where
  postings _ _ := mem_postings_addAll
  nonempty _ := get?_addAll_ne_empty
  contains _ := contains_addAll
  documents := documents_addAll_from.trans (Nat.zero_add _)
  withoutWords := withoutWords_addAll_from.trans (Nat.zero_add _)
  words := by
    refine ⟨(addAll ∅ l).index.toList.map (·.1), Index.nodup_words _,
      fun w => Index.mem_words_iff.trans contains_addAll, ?_⟩
    rw [List.length_map]
    rfl

/-- **A builder holds exactly what it was given, in any order**: rearranged additions give the same
index, the same statistics and the same bytes. -/
theorem addAll_exact (l : List (DocId × List Text)) :
    HoldsExactly l (addAll ∅ l) ∧ ∀ m, Rearranged l m → Alike (addAll ∅ m) (addAll ∅ l) := by
  refine ⟨holdsExactly_addAll l, fun m h => ?_⟩
  rw [addAll_eq_of_rearranged ∅ h]
  exact .refl _

/-- Two documents in the other order, the texts of one of them in the other order and one of them
twice. -/
theorem addAll_exact_turned :
    let l := [(2, ["Cat ".toList, "a dog".toList]), (1, ["owl".toList])]
    let m := [(1, ["owl".toList]), (2, ["a dog".toList, "Cat ".toList, "a dog".toList])]
    Rearranged l m ∧ Alike (addAll ∅ m) (addAll ∅ l) := by
  intro l m
  have h : Rearranged l m := .trans (.additions (.swap _ _ _))
    (.texts [(1, ["owl".toList])] [] fun t => by grind)
  obtain ⟨-, halike⟩ := addAll_exact l
  exact ⟨h, halike m h⟩

end Builder

end Concordance

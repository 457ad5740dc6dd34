import Concordance.Collection
import Concordance.Proofs.Collection.Search
import Concordance.Proofs.Query.Evaluation

/-!
# When negation is complement

A negation finds what is in the universe and is not found without it. The universe need not have all
the documents of the index, because it can come from a registry, and a document that is in a posting
set only is found by a term and, twice negated, is not. Where the universe covers the index, every
expression finds documents of the universe alone, and negation has the laws of complement; each of
these laws fails otherwise, already for a term.

The universe is that of `Universe.derive`, or any other.

* **`Query.evaluate_subset_of_covers`**: nothing but documents of the universe is found.
* **`Collection.covers_iff`**: the collections whose universe covers the index.
* **`Query.covers_iff_classical`**: the universes for which negation has the laws of complement.
-/

namespace Concordance

open Query

variable {x : Index} {u : Universe} {d : DocId} {e : Expr}

/-- A universe has every document of an index. -/
def Universe.Covers (u : Universe) (x : Index) : Prop :=
  ∀ w ds, x.get? w = some ds → ∀ d ∈ ds, d ∈ u

theorem Universe.covers_iff : u.Covers x ↔ ∀ w, ∀ d ∈ x.postings w, d ∈ u := by
  unfold Covers
  simp only [Index.mem_postings]
  constructor
  · rintro h w d ⟨ds, hw, hd⟩
    exact h w ds hw d hd
  · intro h w ds hw d hd
    exact h w d ⟨ds, hw, hd⟩

namespace Query

/-! ## One document -/

section Satisfaction

variable {contains : Text → Prop} {known : Prop}

mutual

/-- A document that is known if it contains a word is known if it satisfies anything. -/
theorem Satisfies.known (h : ∀ w, contains w → known) : (e : Expr) →
    Satisfies contains known e → known
  | .term w => by
    rw [Satisfies]
    exact h w
  | .and [] => by
    rw [Satisfies]
    exact fun hand => absurd rfl hand.1
  | .and (e :: es) => by
    rw [Satisfies, SatisfiesAll]
    exact fun hand => Satisfies.known h e hand.2.1
  | .or es => by
    rw [Satisfies]
    exact SatisfiesSome.known h es
  | .not e => by
    rw [Satisfies]
    exact And.left
  | .group e => by
    rw [Satisfies]
    exact Satisfies.known h e
  | .empty => by
    rw [Satisfies]
    exact False.elim

theorem SatisfiesSome.known (h : ∀ w, contains w → known) : (es : List Expr) →
    SatisfiesSome contains known es → known
  | [] => by
    rw [SatisfiesSome]
    exact False.elim
  | e :: es => by
    rw [SatisfiesSome]
    exact fun hor => hor.elim (Satisfies.known h e) (SatisfiesSome.known h es)

end

end Satisfaction

/-! ## What is found -/

theorem mem_evaluate_not : d ∈ evaluate x u (.not e) ↔ d ∈ u ∧ d ∉ evaluate x u e := by
  rw [evaluate, AscSet.mem_sdiff]

/-- **Nothing but documents of the universe is found**, where it covers the index. -/
theorem evaluate_subset_of_covers (h : u.Covers x) (hd : d ∈ evaluate x u e) : d ∈ u :=
  Satisfies.known (fun w => Universe.covers_iff.mp h w d) e ((mem_evaluate e).mp hd)

/-- A universe that has what terms find covers the index. -/
theorem covers_of_terms (h : ∀ w, ∀ d ∈ evaluate x u (.term w), d ∈ u) : u.Covers x := by
  refine Universe.covers_iff.mpr fun w d hd => h w d ?_
  rw [evaluate]
  exact hd

theorem evaluate_not_not (h : u.Covers x) (e : Expr) :
    evaluate x u (.not (.not e)) = evaluate x u e := by
  refine AscSet.ext_mem fun d => ?_
  have hknown : d ∈ evaluate x u e → d ∈ u := evaluate_subset_of_covers h
  rw [mem_evaluate_not, mem_evaluate_not]
  constructor
  · rintro ⟨hu, hnot⟩
    exact Decidable.byContradiction fun hd => hnot ⟨hu, hd⟩
  · intro hd
    exact ⟨hknown hd, fun hnot => hnot.2 hd⟩

theorem evaluate_union_not (h : u.Covers x) (e : Expr) :
    evaluate x u e ∪ evaluate x u (.not e) = u := by
  refine AscSet.ext_mem fun d => ?_
  have hknown : d ∈ evaluate x u e → d ∈ u := evaluate_subset_of_covers h
  rw [AscSet.mem_union, mem_evaluate_not]
  constructor
  · rintro (hd | ⟨hu, -⟩)
    · exact hknown hd
    · exact hu
  · intro hu
    by_cases hd : d ∈ evaluate x u e
    · exact .inl hd
    · exact .inr ⟨hu, hd⟩

theorem evaluate_inter_not (x : Index) (u : Universe) (e : Expr) :
    evaluate x u e ∩ evaluate x u (.not e) = ∅ := by
  refine AscSet.ext_mem fun d => ?_
  rw [AscSet.mem_inter, mem_evaluate_not]
  exact iff_of_false (fun h => h.2.2 h.1) (AscSet.not_mem_empty d)

end Query

/-! ## Collections -/

/-- **The collections whose universe covers the index**: nothing is registered, so that the universe
is the index's own, or all documents of the index are. -/
theorem Collection.covers_iff {r : Registry} :
    (Collection.of x r).known.Covers x ↔ r = ∅ ∨ ∀ d ∈ x.docIds, r.contains d = true := by
  have hknown : ∀ d, d ∈ (Collection.of x r).known ↔
      if r = ∅ then ∃ w, d ∈ x.postings w else r.contains d = true := by
    intro d
    refine Universe.mem_derive.trans ?_
    split
    · rfl
    · exact Option.isSome_iff_exists.symm
  rw [Universe.covers_iff]
  simp only [hknown, Index.mem_docIds]
  by_cases hr : r = ∅
  · simp only [hr, if_true, true_or, iff_true]
    exact fun w d hd => ⟨w, hd⟩
  · simp only [hr, if_false, false_or]
    exact ⟨fun h d ⟨w, hd⟩ => h w d hd, fun h w d hd => h d ⟨w, hd⟩⟩

/-- **Negation is complement exactly where the universe covers the index**: then nothing else is
found, two negations cancel, and an expression or its negation finds each document of the universe.
That no document is found by both holds always. The universe of a collection covers the index where
nothing is registered, or where all documents of the index are. -/
theorem Query.covers_iff_classical :
    (∀ (x : Index) (u : Universe),
      (u.Covers x ↔ ∀ e, ∀ d ∈ evaluate x u e, d ∈ u) ∧
      (u.Covers x ↔ ∀ e, evaluate x u (.not (.not e)) = evaluate x u e) ∧
      (u.Covers x ↔ ∀ e, evaluate x u e ∪ evaluate x u (.not e) = u) ∧
      ∀ e, evaluate x u e ∩ evaluate x u (.not e) = ∅) ∧
    ∀ (x : Index) (r : Registry),
      ((Collection.of x r).known.Covers x ↔ r = ∅ ∨ ∀ d ∈ x.docIds, r.contains d = true) := by
  refine ⟨fun x u => ⟨⟨fun h e d => evaluate_subset_of_covers h, fun h => ?_⟩,
    ⟨evaluate_not_not, fun h => ?_⟩, ⟨evaluate_union_not, fun h => ?_⟩,
    evaluate_inter_not x u⟩, fun x r => Collection.covers_iff⟩
  · exact covers_of_terms fun w => h (.term w)
  · refine covers_of_terms fun w d hd => ?_
    rw [← h (.term w)] at hd
    exact (mem_evaluate_not.mp hd).1
  · refine covers_of_terms fun w d hd => ?_
    rw [← h (.term w)]
    exact AscSet.mem_union.mpr (.inl hd)

end Concordance

import Concordance.Query.Evaluate

/-!
# What an expression finds

`evaluate` computes a set, one operand after another; `Satisfies` says of one document whether it is
found. That they agree is an induction on the tree. In a conjunction the set found so far is carried
along, and once it is empty the operands that come after are passed over.

* **`mem_evaluate`**: the documents that an expression finds are those that satisfy it.
-/

namespace Concordance.Query

mutual

/-- **The documents that an expression finds** are those that satisfy it. -/
theorem mem_evaluate {x : Index} {u : Universe} {d : DocId} : (e : Expr) →
    (d ∈ evaluate x u e ↔ Satisfies (fun w => d ∈ x.postings w) (d ∈ u) e)
  | .term w => by rw [evaluate, Satisfies]
  | .and [] => by
    rw [evaluate, Satisfies]
    exact iff_of_false (AscSet.not_mem_empty d) fun h => h.1 rfl
  | .and (e :: es) => by
    rw [evaluate, mem_evaluateAnd, mem_evaluate e, Satisfies, SatisfiesAll]
    exact (and_iff_right (List.cons_ne_nil e es)).symm
  | .or es => by
    rw [evaluate, mem_evaluateOr, Satisfies]
    exact or_iff_right (AscSet.not_mem_empty d)
  | .not e => by rw [evaluate, AscSet.mem_sdiff, mem_evaluate e, Satisfies]
  | .group e => by rw [evaluate, mem_evaluate e, Satisfies]
  | .empty => by
    rw [evaluate, Satisfies]
    exact iff_false_intro (AscSet.not_mem_empty d)

theorem mem_evaluateAnd {x : Index} {u : Universe} {d : DocId} {found : Postings} :
    (es : List Expr) → (d ∈ evaluateAnd x u found es ↔
      d ∈ found ∧ SatisfiesAll (fun w => d ∈ x.postings w) (d ∈ u) es)
  | [] => by
    rw [evaluateAnd, SatisfiesAll]
    exact (and_iff_left trivial).symm
  | e :: es => by
    rw [evaluateAnd, SatisfiesAll]
    split
    · rename_i hempty
      have hd : d ∉ found := AscSet.isEmpty_iff.mp hempty ▸ AscSet.not_mem_empty d
      exact iff_of_false hd fun h => hd h.1
    · rw [mem_evaluateAnd es, AscSet.mem_inter, mem_evaluate e, and_assoc]

theorem mem_evaluateOr {x : Index} {u : Universe} {d : DocId} {found : Postings} :
    (es : List Expr) → (d ∈ evaluateOr x u found es ↔
      d ∈ found ∨ SatisfiesSome (fun w => d ∈ x.postings w) (d ∈ u) es)
  | [] => by
    rw [evaluateOr, SatisfiesSome]
    exact (or_iff_left id).symm
  | e :: es => by
    rw [evaluateOr, mem_evaluateOr es, AscSet.mem_union, mem_evaluate e, SatisfiesSome, or_assoc]

end

end Concordance.Query

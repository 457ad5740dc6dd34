import Concordance.Proofs.Query.Evaluation

/-!
# Stopping early and the order of operands

`evaluate` looks at the operands of a conjunction one after another and stops once nothing is left.
Neither that nor the order of operands has an influence on what is found: from nothing, further
operands leave nothing, and what it means for one document to satisfy a list of operands is the same
in any order.

* `evaluate_eq_evaluateFully`: stopping early changes nothing.
* `Reordered.satisfies_iff`: a document satisfies an expression in whatever order its operands are.
* **`evaluate_pointwise`**: what is found, said of one document, and what it does not depend on.
-/

namespace Concordance.Query

/-! ## Evaluation without stopping -/

mutual

/-- The documents that an expression finds, where every operand is looked at. -/
def evaluateFully (x : Index) (u : Universe) : Expr → Postings
  | .term word => x.postings word
  | .and [] => ∅
  | .and (e :: es) => evaluateFullyAnd x u (evaluateFully x u e) es
  | .or es => evaluateFullyOr x u ∅ es
  | .not e => u \ evaluateFully x u e
  | .group e => evaluateFully x u e
  | .empty => ∅

/-- The documents of a set that every operand finds. -/
def evaluateFullyAnd (x : Index) (u : Universe) (found : Postings) : List Expr → Postings
  | [] => found
  | e :: es => evaluateFullyAnd x u (found ∩ evaluateFully x u e) es

/-- The documents of a set and those that some operand finds. -/
def evaluateFullyOr (x : Index) (u : Universe) (found : Postings) : List Expr → Postings
  | [] => found
  | e :: es => evaluateFullyOr x u (found ∪ evaluateFully x u e) es

end

section Fully

variable {x : Index} {u : Universe}

/-- Once nothing is left, nothing comes back. -/
theorem evaluateFullyAnd_empty (es : List Expr) : evaluateFullyAnd x u ∅ es = ∅ := by
  induction es with
  | nil => rw [evaluateFullyAnd]
  | cons e es ih =>
    have hinter : (∅ : Postings) ∩ evaluateFully x u e = ∅ := AscSet.ext_mem fun d => by simp
    rw [evaluateFullyAnd, hinter, ih]

mutual

/-- **Stopping early changes nothing.** -/
theorem evaluate_eq_evaluateFully : (e : Expr) → evaluate x u e = evaluateFully x u e
  | .term _ => by rw [evaluate, evaluateFully]
  | .and [] => by rw [evaluate, evaluateFully]
  | .and (e :: es) => by
    rw [evaluate, evaluateFully, evaluate_eq_evaluateFully e, evaluateAnd_eq_evaluateFullyAnd es]
  | .or es => by rw [evaluate, evaluateFully, evaluateOr_eq_evaluateFullyOr es]
  | .not e => by rw [evaluate, evaluateFully, evaluate_eq_evaluateFully e]
  | .group e => by rw [evaluate, evaluateFully, evaluate_eq_evaluateFully e]
  | .empty => by rw [evaluate, evaluateFully]

theorem evaluateAnd_eq_evaluateFullyAnd {found : Postings} : (es : List Expr) →
    evaluateAnd x u found es = evaluateFullyAnd x u found es
  | [] => by rw [evaluateAnd, evaluateFullyAnd]
  | e :: es => by
    rw [evaluateAnd]
    split
    · rename_i hempty
      rw [AscSet.isEmpty_iff.mp hempty, evaluateFullyAnd_empty]
    · rw [evaluateFullyAnd, evaluate_eq_evaluateFully e, evaluateAnd_eq_evaluateFullyAnd es]

theorem evaluateOr_eq_evaluateFullyOr {found : Postings} : (es : List Expr) →
    evaluateOr x u found es = evaluateFullyOr x u found es
  | [] => by rw [evaluateOr, evaluateFullyOr]
  | e :: es => by
    rw [evaluateOr, evaluateFullyOr, evaluate_eq_evaluateFully e, evaluateOr_eq_evaluateFullyOr es]

end

end Fully

/-! ## Operands in another order -/

mutual

/-- Trees that differ in nothing but the order of operands, at any depth. -/
inductive Reordered : Expr → Expr → Prop where
  | refl (e : Expr) : Reordered e e
  | and {es fs : List Expr} : ReorderedAll es fs → Reordered (.and es) (.and fs)
  | or {es fs : List Expr} : ReorderedAll es fs → Reordered (.or es) (.or fs)
  | not {e f : Expr} : Reordered e f → Reordered (.not e) (.not f)
  | group {e f : Expr} : Reordered e f → Reordered (.group e) (.group f)

/-- Lists with the same trees in any order, up to the order of the operands in these. -/
inductive ReorderedAll : List Expr → List Expr → Prop where
  | nil : ReorderedAll [] []
  | cons {e f : Expr} {es fs : List Expr} :
    Reordered e f → ReorderedAll es fs → ReorderedAll (e :: es) (f :: fs)
  | swap (e f : Expr) (es : List Expr) : ReorderedAll (e :: f :: es) (f :: e :: es)
  | trans {es fs gs : List Expr} : ReorderedAll es fs → ReorderedAll fs gs → ReorderedAll es gs

end

/-- Any permutation of operands is a reordering. -/
theorem ReorderedAll.of_perm {es fs : List Expr} (h : es.Perm fs) : ReorderedAll es fs := by
  induction h with
  | nil => exact .nil
  | cons e _ ih => exact .cons (.refl e) ih
  | swap e f es => exact .swap f e es
  | trans _ _ ih₁ ih₂ => exact .trans ih₁ ih₂

/-- Lists of operands that mean the same, whether all of them are asked for or one. -/
structure SameOperands (contains : Text → Prop) (known : Prop) (es fs : List Expr) : Prop where
  nil : es = [] ↔ fs = []
  all : SatisfiesAll contains known es ↔ SatisfiesAll contains known fs
  some : SatisfiesSome contains known es ↔ SatisfiesSome contains known fs

section Order

variable {contains : Text → Prop} {known : Prop}

mutual

/-- A document satisfies a tree in whatever order its operands are. -/
theorem Reordered.satisfies_iff {e f : Expr} : Reordered e f →
    (Satisfies contains known e ↔ Satisfies contains known f)
  | .refl _ => Iff.rfl
  | .and h => by
    have hs := h.sameOperands
    rw [Satisfies, Satisfies, hs.all, ne_eq, ne_eq, hs.nil]
  | .or h => by
    rw [Satisfies, Satisfies, h.sameOperands.some]
  | .not h => by rw [Satisfies, Satisfies, h.satisfies_iff]
  | .group h => by rw [Satisfies, Satisfies, h.satisfies_iff]

theorem ReorderedAll.sameOperands {es fs : List Expr} : ReorderedAll es fs →
    SameOperands contains known es fs
  | .nil => ⟨Iff.rfl, Iff.rfl, Iff.rfl⟩
  | .cons h hs => by
    have htail := hs.sameOperands
    refine ⟨iff_of_false (List.cons_ne_nil _ _) (List.cons_ne_nil _ _), ?_, ?_⟩
    · rw [SatisfiesAll, SatisfiesAll, h.satisfies_iff, htail.all]
    · rw [SatisfiesSome, SatisfiesSome, h.satisfies_iff, htail.some]
  | .swap e f es => by
    refine ⟨iff_of_false (List.cons_ne_nil _ _) (List.cons_ne_nil _ _), ?_, ?_⟩
    · rw [SatisfiesAll, SatisfiesAll, SatisfiesAll, SatisfiesAll, and_left_comm]
    · rw [SatisfiesSome, SatisfiesSome, SatisfiesSome, SatisfiesSome, or_left_comm]
  | .trans h₁ h₂ => by
    have hs₁ := h₁.sameOperands
    have hs₂ := h₂.sameOperands
    exact ⟨hs₁.nil.trans hs₂.nil, hs₁.all.trans hs₂.all, hs₁.some.trans hs₂.some⟩

end

end Order

/-- **What an expression finds**: a document is found iff it satisfies the expression, where it
contains a word iff it is in the set that is stored under the word. So looking at every operand of a
conjunction finds the same, and so do the operands in another order. -/
theorem evaluate_pointwise (x : Index) (u : Universe) (e : Expr) :
    (∀ d, d ∈ evaluate x u e ↔
      Satisfies (fun w => ∃ ds, x.get? w = some ds ∧ d ∈ ds) (d ∈ u) e) ∧
    evaluate x u e = evaluateFully x u e ∧
    ∀ f, Reordered e f → evaluate x u f = evaluate x u e := by
  refine ⟨fun d => ?_, evaluate_eq_evaluateFully e, fun f h => AscSet.ext_mem fun d => ?_⟩
  · have hcontains : (fun w => d ∈ x.postings w) = fun w => ∃ ds, x.get? w = some ds ∧ d ∈ ds :=
      funext fun w => propext Index.mem_postings
    rw [mem_evaluate e, hcontains]
  · rw [mem_evaluate f, mem_evaluate e, h.satisfies_iff]

/-- `w AND NOT y` finds the same as `NOT y AND w`, over three documents of which one is in no
posting set. -/
theorem evaluate_and_swapped :
    Reordered (.and [.term ['w'], .not (.term ['y'])]) (.and [.not (.term ['y']), .term ['w']]) ∧
      evaluate (Index.ofList [(['w'], .ofList [1, 2]), (['y'], .ofList [2])]) (.ofList [1, 2, 3])
        (.and [.not (.term ['y']), .term ['w']]) =
      evaluate (Index.ofList [(['w'], .ofList [1, 2]), (['y'], .ofList [2])]) (.ofList [1, 2, 3])
        (.and [.term ['w'], .not (.term ['y'])]) := by
  have h : Reordered (.and [.term ['w'], .not (.term ['y'])])
      (.and [.not (.term ['y']), .term ['w']]) := .and (.of_perm (.swap _ _ []))
  exact ⟨h, (evaluate_pointwise _ _ _).2.2 _ h⟩

end Concordance.Query

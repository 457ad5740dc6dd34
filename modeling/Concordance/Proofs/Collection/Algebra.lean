import Concordance.Proofs.Collection.Search
import Concordance.Proofs.Query.Composition

/-!
# Set algebra of queries

Queries that are put together find what their parts find, put together as sets. It is enough to look
at one document: it is found by a query that spells a tree iff it satisfies the tree, and it
satisfies a tree that is put together by what it satisfies of the parts.

* **`Collection.setAlgebra`**: conjunction is intersection, disjunction is union, negation is the
  complement in the universe, and the laws of De Morgan hold, of queries as texts.
-/

namespace Concordance

open Query (Expr Spells Composable Satisfies SatisfiesSome inParens conjoined disjoined negated)

/-! ## One document and a disjunction of disjunctions -/

section Satisfaction

variable {contains : Text → Prop} {known : Prop} {e f : Expr}

theorem Query.satisfiesSome_append (es fs : List Expr) :
    SatisfiesSome contains known (es ++ fs) ↔
      SatisfiesSome contains known es ∨ SatisfiesSome contains known fs := by
  induction es with
  | nil => exact (or_iff_right id).symm
  | cons e es ih => rw [List.cons_append, SatisfiesSome, SatisfiesSome, ih, or_assoc]

theorem Query.satisfiesSome_disjuncts :
    SatisfiesSome contains known e.disjuncts ↔ Satisfies contains known e := by
  cases e with
  | or es => rw [Expr.disjuncts, Satisfies]
  | term | and | not | group | empty =>
    simp only [Expr.disjuncts, SatisfiesSome]
    exact or_iff_left id

theorem Query.satisfies_either : Satisfies contains known (.either e f) ↔
    Satisfies contains known e ∨ Satisfies contains known f := by
  rw [Expr.either, Satisfies, satisfiesSome_append, satisfiesSome_disjuncts,
    satisfiesSome_disjuncts]

end Satisfaction

namespace Collection

variable {c : Collection} {d : DocId} {a b q : Text} {e f : Expr} {n : Nat}

/-- A document satisfies a tree in a collection. -/
def Holds (c : Collection) (d : DocId) (e : Expr) : Prop :=
  Satisfies (fun w => d ∈ c.index.postings w) (d ∈ c.known) e

theorem holds_and : c.Holds d (.and [e, f]) ↔ c.Holds d e ∧ c.Holds d f := by
  simp [Holds, Satisfies, Query.SatisfiesAll]

theorem holds_either : c.Holds d (.either e f) ↔ c.Holds d e ∨ c.Holds d f :=
  Query.satisfies_either

theorem holds_not : c.Holds d (.not e) ↔ d ∈ c.known ∧ ¬ c.Holds d e := by
  rw [Holds, Satisfies, Holds]

theorem holds_group : c.Holds d (.group e) ↔ c.Holds d e := by
  rw [Holds, Satisfies, Holds]

theorem mem_search_iff_holds : d ∈ c.search q ↔ c.Holds d (Query.parseQuery q).expr :=
  mem_search

/-- A query that spells a tree finds the documents that satisfy it. -/
theorem mem_search_of_spells (h : Spells q e n) (hn : n ≤ 256) :
    d ∈ c.search q ↔ c.Holds d e := by
  rw [mem_search_iff_holds, h.parseQuery_eq hn]

/-- Two queries and what they find together. -/
structure SetAlgebra (c : Collection) (a b : Text) : Prop where
  /-- `(a) AND (b)` finds what both find. -/
  and_eq : c.search (conjoined (inParens a) (inParens b)) = c.search a ∩ c.search b
  /-- `(a) OR (b)` finds what either finds. -/
  or_eq : c.search (disjoined (inParens a) (inParens b)) = c.search a ∪ c.search b
  /-- So does `a OR b`. -/
  bare_or_eq : c.search (disjoined a b) = c.search a ∪ c.search b
  /-- `NOT (a)` finds what else is in the universe. -/
  not_eq : c.search (negated (inParens a)) = c.known \ c.search a
  /-- `NOT ((a) AND (b))` finds what `(NOT (a)) OR (NOT (b))` finds. -/
  not_and_eq : c.search (negated (inParens (conjoined (inParens a) (inParens b)))) =
    c.search (disjoined (inParens (negated (inParens a))) (inParens (negated (inParens b))))
  /-- `NOT ((a) OR (b))` finds what `(NOT (a)) AND (NOT (b))` finds. -/
  not_or_eq : c.search (negated (inParens (disjoined (inParens a) (inParens b)))) =
    c.search (conjoined (inParens (negated (inParens a))) (inParens (negated (inParens b))))

/-- **Queries compose as sets**, where each is one that can stand inside others. -/
theorem setAlgebra (c : Collection) (ha : Composable a) (hb : Composable b) : c.SetAlgebra a b := by
  have hsa := ha.spells
  have hsb := hb.spells
  have hand := hsa.inParens.conjoined hsb.inParens rfl rfl
  have hor := hsa.inParens.disjoined hsb.inParens
  have hna := (hsa.inParens.negated rfl).inParens
  have hnb := (hsb.inParens.negated rfl).inParens
  constructor <;> refine AscSet.ext_mem fun d => ?_
  case and_eq =>
    rw [mem_search_of_spells hand (by decide), holds_and, holds_group, holds_group,
      AscSet.mem_inter, mem_search_iff_holds, mem_search_iff_holds]
  case or_eq =>
    rw [mem_search_of_spells hor (by decide), holds_either, holds_group, holds_group,
      AscSet.mem_union, mem_search_iff_holds, mem_search_iff_holds]
  case bare_or_eq =>
    rw [mem_search_of_spells (hsa.disjoined hsb) (by decide), holds_either, AscSet.mem_union,
      mem_search_iff_holds, mem_search_iff_holds]
  case not_eq =>
    rw [mem_search_of_spells (hsa.inParens.negated rfl) (by decide), holds_not, holds_group,
      AscSet.mem_sdiff, mem_search_iff_holds]
  case not_and_eq =>
    rw [mem_search_of_spells (hand.inParens.negated rfl) (by decide),
      mem_search_of_spells (hna.disjoined hnb) (by decide)]
    simp only [holds_not, holds_group, holds_and, holds_either]
    rw [not_and_or, and_or_left]
  case not_or_eq =>
    rw [mem_search_of_spells (hor.inParens.negated rfl) (by decide),
      mem_search_of_spells (hna.conjoined hnb rfl rfl) (by decide)]
    simp only [holds_not, holds_group, holds_and, holds_either]
    rw [not_or, and_and_left]

/-- An operator may lack an operand: `x OR` and `NOT y` compose, over three documents with one or
both of the words. -/
theorem setAlgebra_missing_operand :
    Composable ['x', ' ', 'O', 'R'] ∧ Composable ['N', 'O', 'T', ' ', 'y'] ∧
      (Collection.of (Builder.addAll ∅ [(1, [['x']]), (2, [['x'], ['y']]), (3, [['y']])]).index
        ∅).SetAlgebra ['x', ' ', 'O', 'R'] ['N', 'O', 'T', ' ', 'y'] := by
  have ha : Spells ['x', ' ', 'O', 'R'] (.or [.term ['x'], .empty]) 253 :=
    ⟨by decide, by decide, by decide⟩
  have hb : Spells ['N', 'O', 'T', ' ', 'y'] (.not (.term ['y'])) 253 :=
    ⟨by decide, by decide, by decide⟩
  exact ⟨ha.composable, hb.composable, setAlgebra _ ha.composable hb.composable⟩

end Collection

end Concordance

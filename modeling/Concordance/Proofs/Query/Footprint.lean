import Concordance.Proofs.Query.Evaluation
import Concordance.Proofs.Query.Printing

/-!
# The footprint of a query

`Expr.terms` lists the words of a tree. Evaluation passes over the operands of a conjunction once
nothing can be found, so it may look up fewer; that it looks up no others is a statement about two
evaluations, with indexes that hold the same under these words and whatever they like under all
others. The universe is looked at by negations only. On the other side, reading neither loses a term
nor makes one up: the words of the tree and those of the tokens left over are the words of the
tokens, in their order.

* `evaluate_congr`: indexes that agree on the words of a tree find the same by it.
* `terms_parse`: the words of the tokens are in the tree or left over.
* **`terms_footprint`**: both, for every tree and all tokens.
-/

namespace Concordance.Query

open Concordance.Query.Expr (termsAll)

/-! ## Evaluation -/

mutual

/-- Whether a tree has a negation in it. -/
def Expr.negates : Expr → Bool
  | .term _ | .empty => false
  | .and es | .or es => anyNegates es
  | .not _ => true
  | .group e => e.negates

/-- Whether some tree of a list has a negation in it. -/
def anyNegates : List Expr → Bool
  | [] => false
  | e :: es => e.negates || anyNegates es

end

section Satisfaction

variable {contains contains' : Text → Prop} {known known' : Prop}

mutual

/-- Whether a document satisfies an expression depends on the words of the expression that it
contains and, where the expression has a negation, on whether it is known. -/
theorem satisfies_congr : (e : Expr) → (∀ w ∈ e.terms, (contains w ↔ contains' w)) →
    (e.negates = true → (known ↔ known')) →
      (Satisfies contains known e ↔ Satisfies contains' known' e)
  | .term w => fun hw _ => by
    rw [Satisfies, Satisfies]
    exact hw w (List.mem_singleton.mpr rfl)
  | .and es => fun hw hn => by
    rw [Satisfies, Satisfies, satisfiesAll_congr es hw hn]
  | .or es => fun hw hn => by
    rw [Satisfies, Satisfies, satisfiesSome_congr es hw hn]
  | .not e => fun hw hn => by
    have hknown : known ↔ known' := hn rfl
    rw [Satisfies, Satisfies, satisfies_congr e hw fun _ => hknown, hknown]
  | .group e => fun hw hn => by
    rw [Satisfies, Satisfies, satisfies_congr e hw hn]
  | .empty => fun _ _ => by rw [Satisfies, Satisfies]

theorem satisfiesAll_congr : (es : List Expr) → (∀ w ∈ termsAll es, (contains w ↔ contains' w)) →
    (anyNegates es = true → (known ↔ known')) →
      (SatisfiesAll contains known es ↔ SatisfiesAll contains' known' es)
  | [] => fun _ _ => by rw [SatisfiesAll, SatisfiesAll]
  | e :: es => fun hw hn => by
    obtain ⟨he, hes⟩ := List.forall_mem_append.mp hw
    rw [anyNegates, Bool.or_eq_true] at hn
    rw [SatisfiesAll, SatisfiesAll, satisfies_congr e he fun h => hn (.inl h),
      satisfiesAll_congr es hes fun h => hn (.inr h)]

theorem satisfiesSome_congr : (es : List Expr) →
    (∀ w ∈ termsAll es, (contains w ↔ contains' w)) →
    (anyNegates es = true → (known ↔ known')) →
      (SatisfiesSome contains known es ↔ SatisfiesSome contains' known' es)
  | [] => fun _ _ => by rw [SatisfiesSome, SatisfiesSome]
  | e :: es => fun hw hn => by
    obtain ⟨he, hes⟩ := List.forall_mem_append.mp hw
    rw [anyNegates, Bool.or_eq_true] at hn
    rw [SatisfiesSome, SatisfiesSome, satisfies_congr e he fun h => hn (.inl h),
      satisfiesSome_congr es hes fun h => hn (.inr h)]

end

end Satisfaction

/-- **Indexes that agree on the words of a tree** find the same by it, in one universe; without a
negation, in any two. -/
theorem evaluate_congr {x y : Index} {u v : Universe} {e : Expr}
    (hw : ∀ w ∈ e.terms, x.get? w = y.get? w) (hu : e.negates = true → u = v) :
    evaluate x u e = evaluate y v e := by
  refine AscSet.ext_mem fun d => ?_
  rw [mem_evaluate, mem_evaluate]
  refine satisfies_congr e (fun w hmem => ?_) fun hn => by rw [hu hn]
  rw [Index.mem_postings, Index.mem_postings, hw w hmem]

/-! ## Reading -/

/-- **The words of the tokens** are those of the tree that is read, followed by those left over. -/
theorem terms_parse (ts : List Token) :
    (parse ts).expr.terms ++ words (parse ts).trailing = words ts := by
  rw [(parse_reads ts).takes.words, words_flatten]

/-! ## Together -/

/-- **The words of a tree are all that it looks up**: what it finds is decided by what an index
holds under them, and by the universe where there is a negation. The tree that tokens are read as
has their words, up to those that it leaves over, in order and with repetitions. -/
theorem terms_footprint :
    (∀ (e : Expr) (x y : Index) (u v : Universe), (∀ w ∈ e.terms, x.get? w = y.get? w) →
      (e.negates = true → u = v) → evaluate x u e = evaluate y v e) ∧
    ∀ ts, (parse ts).expr.terms ++ words (parse ts).trailing = words ts :=
  ⟨fun _ _ _ _ _ => evaluate_congr, terms_parse⟩

/-- A disjunction of two words finds the same in indexes that differ under a third, whatever the
universes; of the tokens `(a OR b) c`, the tree has the first two words and leaves the third. -/
theorem terms_footprint_disjunction :
    let e := Expr.or [.term ['a'], .term ['b']]
    let x := Index.ofList [(['a'], .ofList [1]), (['b'], .ofList [2])]
    let y := x.replace ['c'] (.ofList [3])
    let ts := [Token.lparen, .term ['a'], .or, .term ['b'], .rparen, .term ['c']]
    x.get? ['c'] ≠ y.get? ['c'] ∧ (∀ w ∈ e.terms, x.get? w = y.get? w) ∧ e.negates = false ∧
      evaluate x ∅ e = evaluate y (.ofList [7]) e ∧
      (parse ts).expr.terms ++ words (parse ts).trailing = [['a'], ['b'], ['c']] := by
  intro e x y ts
  have hw : ∀ w ∈ e.terms, x.get? w = y.get? w := by decide
  have hn : e.negates = false := rfl
  refine ⟨by decide, hw, hn, ?_, terms_footprint.2 ts⟩
  exact terms_footprint.1 e x y ∅ (.ofList [7]) hw fun h => absurd h (by rw [hn]; simp)

end Concordance.Query

import Concordance.Index
import Concordance.Registry
import Concordance.Query.Expr

/-!
# The documents of a query expression

`evaluate` computes the set of the documents that an expression finds in an index; a negation finds
the documents of the universe that its operand does not. `Satisfies` says of one document what it
means to be found.

Model of `Evaluator.evaluate`.
-/

namespace Concordance.Query

mutual

/-- The documents that an expression finds. -/
def evaluate (x : Index) (u : Universe) : Expr → Postings
  | .term word => x.postings word
  | .and [] => ∅
  | .and (e :: es) => evaluateAnd x u (evaluate x u e) es
  | .or es => evaluateOr x u ∅ es
  | .not e => u \ evaluate x u e
  | .group e => evaluate x u e
  | .empty => ∅

/-- The documents of a set that every operand finds; operands that come after the set is empty are
not looked at. -/
def evaluateAnd (x : Index) (u : Universe) (found : Postings) : List Expr → Postings
  | [] => found
  | e :: es => if found.isEmpty then found else evaluateAnd x u (found ∩ evaluate x u e) es

/-- The documents of a set and those that some operand finds. -/
def evaluateOr (x : Index) (u : Universe) (found : Postings) : List Expr → Postings
  | [] => found
  | e :: es => evaluateOr x u (found ∪ evaluate x u e) es

end

mutual

/-- A document satisfies an expression, read in words: it contains the term; it satisfies all of at
least one operand; it satisfies some operand; it is in the universe and does not satisfy the operand
of a negation. -/
def Satisfies (contains : Text → Prop) (known : Prop) : Expr → Prop
  | .term word => contains word
  | .and es => es ≠ [] ∧ SatisfiesAll contains known es
  | .or es => SatisfiesSome contains known es
  | .not e => known ∧ ¬ Satisfies contains known e
  | .group e => Satisfies contains known e
  | .empty => False

/-- A document satisfies every operand. -/
def SatisfiesAll (contains : Text → Prop) (known : Prop) : List Expr → Prop
  | [] => True
  | e :: es => Satisfies contains known e ∧ SatisfiesAll contains known es

/-- A document satisfies some operand. -/
def SatisfiesSome (contains : Text → Prop) (known : Prop) : List Expr → Prop
  | [] => False
  | e :: es => Satisfies contains known e ∨ SatisfiesSome contains known es

end

end Concordance.Query

import Concordance.Proofs.Query.Canonical
import Concordance.Proofs.Query.Lexing

/-!
# Queries that are put together

A query spells a canonical tree if its tokens are those of the tree (`Spells`). Then the tree is all
that is read from it, where the nesting allows it. Queries that spell trees are put together as the
trees are: in parentheses, after `NOT`, with `AND` or `OR` between. Without parentheses a query that
is a disjunction keeps its operands apart in a larger one, which is no other tree than the
disjunction of all operands (`Expr.either`).

The queries that spell a tree are those that reading takes to the end with balanced parentheses. An
operator may be misplaced in them: the operand that is missing is missing in the tree.

* `Spells.inParens`, `Spells.negated`, `Spells.conjoined`, `Spells.disjoined`: putting together.
* **`Spells.parseQuery_eq`**: what is read from a query that spells a tree.
* **`composable_iff`**: the queries that spell a tree, with room for three levels more.
-/

namespace Concordance.Query

open Concordance.Query.Expr (nestingAll flattenAll flattenMore allCanonical isCanonical_and
  isCanonical_or isCanonical_not)

variable {m n : Nat} {a b q : Text} {e f : Expr}

/-! ## Disjunctions of disjunctions -/

theorem flattenAll_append (op : Token) {es fs : List Expr} (he : es ≠ []) (hf : fs ≠ []) :
    flattenAll op (es ++ fs) = flattenAll op es ++ op :: flattenAll op fs := by
  induction es with
  | nil => exact absurd rfl he
  | cons e es ih =>
    by_cases hes : es = []
    · rw [hes, List.singleton_append, flattenAll_cons op e hf]
      simp [flattenAll, flattenMore]
    · have hne : es ++ fs ≠ [] := by simp [hes]
      rw [List.cons_append, flattenAll_cons op e hne, ih hes, flattenAll_cons op e hes,
        List.append_assoc]
      rfl

theorem nestingAll_append (es fs : List Expr) :
    nestingAll (es ++ fs) = max (nestingAll es) (nestingAll fs) := by
  induction es with
  | nil => exact (Nat.zero_max _).symm
  | cons e es ih => rw [List.cons_append, nestingAll, nestingAll, ih, Nat.max_assoc]

namespace Expr

/-- The operands of a disjunction; any other tree is the only one. -/
def disjuncts : Expr → List Expr
  | .or es => es
  | e => [e]

/-- The disjunction of the operands of two trees. -/
def either (e f : Expr) : Expr := .or (e.disjuncts ++ f.disjuncts)

theorem disj_disjuncts (hc : e.isCanonical = true) : disj e.disjuncts = e := by
  cases e with
  | or es => exact disj_of_two_le (isCanonical_or.mp hc).1
  | term | and | not | group | empty => rfl

theorem disjuncts_ne_nil (hc : e.isCanonical = true) : e.disjuncts ≠ [] := by
  cases e with
  | or es => exact List.ne_nil_of_length_pos (Nat.lt_of_succ_lt (isCanonical_or.mp hc).1)
  | term | and | not | group | empty => exact List.cons_ne_nil _ _

theorem of_mem_disjuncts (hc : e.isCanonical = true) :
    ∀ x ∈ e.disjuncts, x.isOr = false ∧ x.isCanonical = true := by
  cases e with
  | or es =>
    obtain ⟨-, ho, hcs⟩ := isCanonical_or.mp hc
    rw [allCanonical_eq_all, List.all_eq_true] at hcs
    exact fun x hx => ⟨ho x hx, hcs x hx⟩
  | term | and | not | group | empty => exact List.forall_mem_singleton.mpr ⟨rfl, hc⟩

theorem two_le_length_disjuncts (he : e.isCanonical = true) (hf : f.isCanonical = true) :
    2 ≤ (e.disjuncts ++ f.disjuncts).length := by
  have h1 := List.length_pos_iff.mpr (disjuncts_ne_nil he)
  have h2 := List.length_pos_iff.mpr (disjuncts_ne_nil hf)
  rw [List.length_append]
  omega

theorem isCanonical_either (he : e.isCanonical = true) (hf : f.isCanonical = true) :
    (either e f).isCanonical = true := by
  have hlen := two_le_length_disjuncts he hf
  rw [either, ← disj_of_two_le hlen]
  refine canonical_disj (by simp [disjuncts_ne_nil he]) fun x hx => ?_
  rcases List.mem_append.mp hx with hx | hx
  · exact of_mem_disjuncts he x hx
  · exact of_mem_disjuncts hf x hx

theorem flatten_either (he : e.isCanonical = true) (hf : f.isCanonical = true) :
    (either e f).flatten = e.flatten ++ .or :: f.flatten := by
  have hsplit := flattenAll_append .or (disjuncts_ne_nil he) (disjuncts_ne_nil hf)
  rwa [← flatten_disj e.disjuncts, ← flatten_disj f.disjuncts, disj_disjuncts he,
    disj_disjuncts hf] at hsplit

theorem nesting_either (he : e.isCanonical = true) (hf : f.isCanonical = true) :
    (either e f).nesting = max e.nesting f.nesting := by
  have hsplit := nestingAll_append e.disjuncts f.disjuncts
  rwa [← nesting_disj e.disjuncts, ← nesting_disj f.disjuncts, disj_disjuncts he,
    disj_disjuncts hf] at hsplit

end Expr

/-! ## Queries that spell trees -/

/-- The tokens of a query spell a canonical tree that is nested so deep at most. -/
structure Spells (q : Text) (e : Expr) (n : Nat) : Prop where
  tokens : tokenize q = e.flatten
  canonical : e.isCanonical = true
  nesting_le : e.nesting ≤ n

namespace Spells

/-- **What is read from a query that spells a tree** is the tree, and nothing is left. -/
theorem parseQuery_eq (h : Spells q e n) (hn : n ≤ maxNesting) : parseQuery q = ⟨e, []⟩ := by
  rw [parseQuery, h.tokens]
  exact parse_flatten h.canonical (Nat.le_trans h.nesting_le hn)

theorem inParens (h : Spells q e n) : Spells (inParens q) (.group e) (n + 1) where
  tokens := by
    rw [tokenize_inParens, h.tokens]
    rfl
  canonical := h.canonical
  nesting_le := Nat.succ_le_succ h.nesting_le

theorem negated (h : Spells q e n) (hp : e.isPrimary = true) :
    Spells (negated q) (.not e) (n + 1) where
  tokens := by
    rw [tokenize_negated, h.tokens]
    rfl
  canonical := isCanonical_not.mpr ⟨hp, h.canonical⟩
  nesting_le := Nat.succ_le_succ h.nesting_le

theorem conjoined (ha : Spells a e n) (hb : Spells b f n) (hp : e.isPrimary = true)
    (hp' : f.isPrimary = true) : Spells (conjoined a b) (.and [e, f]) n where
  tokens := by
    rw [tokenize_conjoined, ha.tokens, hb.tokens]
    simp [Expr.flatten, flattenAll, flattenMore]
  canonical := isCanonical_and.mpr ⟨Nat.le_refl 2, by simp [hp, hp'], by
    simp [allCanonical, ha.canonical, hb.canonical]⟩
  nesting_le := Nat.max_le.mpr ⟨ha.nesting_le, Nat.max_le.mpr ⟨hb.nesting_le, Nat.zero_le n⟩⟩

theorem disjoined (ha : Spells a e n) (hb : Spells b f n) :
    Spells (disjoined a b) (.either e f) n where
  tokens := by
    rw [tokenize_disjoined, ha.tokens, hb.tokens, Expr.flatten_either ha.canonical hb.canonical]
  canonical := Expr.isCanonical_either ha.canonical hb.canonical
  nesting_le := by
    rw [Expr.nesting_either ha.canonical hb.canonical]
    exact Nat.max_le.mpr ⟨ha.nesting_le, hb.nesting_le⟩

end Spells

/-! ## Queries that can be put together -/

/-- A query that can stand inside others: nothing is left when it is read, its parentheses are
balanced, and three levels can be opened around it. Operands may be missing in it. -/
structure Composable (q : Text) : Prop where
  trailing_eq : (parseQuery q).trailing = []
  balanced : (tokenize q).count .lparen = (tokenize q).count .rparen
  nesting_le : (parseQuery q).expr.nesting ≤ 253

theorem Composable.spells (h : Composable q) : Spells q (parseQuery q).expr 253 where
  tokens := by
    have htakes := (parse_reads (tokenize q)).takes
    rw [← parseQuery, h.trailing_eq] at htakes
    exact (htakes.flatten_eq h.balanced).symm
  canonical := isCanonical_parse _
  nesting_le := h.nesting_le

theorem Spells.composable (h : Spells q e 253) : Composable q := by
  have hparse := h.parseQuery_eq (by decide)
  refine ⟨congrArg Parsed.trailing hparse, ?_, ?_⟩
  · rw [h.tokens]
    exact e.count_flatten
  · rw [hparse]
    exact h.nesting_le

/-- **The queries that can be put together** are those that spell a tree with room for three levels
more. -/
theorem composable_iff : Composable q ↔ ∃ e, Spells q e 253 :=
  ⟨fun h => ⟨_, h.spells⟩, fun ⟨_, h⟩ => h.composable⟩

end Concordance.Query

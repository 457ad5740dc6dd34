import Concordance.Query.Expr

/-!
# Canonical trees

A tree is canonical if it has the shape that the grammar gives: a conjunction has at least two
operands, none of them a conjunction or disjunction; a disjunction has at least two, none of them a
disjunction; a negation is of neither. A tree is complete if no operand is missing in it. Both are
decided node by node.

* `canonical_conj`, `canonical_disj`: the constructors keep the shape.
-/

namespace Concordance.Query.Expr

/-- Whether a tree stands where the grammar has a primary. -/
def isPrimary : Expr → Bool
  | .and _ | .or _ => false
  | .term _ | .not _ | .group _ | .empty => true

/-- Whether a tree is a disjunction. -/
def isOr : Expr → Bool
  | .or _ => true
  | _ => false

mutual

/-- Whether a tree has the shape that the grammar gives. -/
def isCanonical : Expr → Bool
  | .term _ | .empty => true
  | .and es => decide (2 ≤ es.length) && es.all isPrimary && allCanonical es
  | .or es => decide (2 ≤ es.length) && es.all (!·.isOr) && allCanonical es
  | .not e => e.isPrimary && e.isCanonical
  | .group e => e.isCanonical

/-- Whether every tree of a list has the shape that the grammar gives. -/
def allCanonical : List Expr → Bool
  | [] => true
  | e :: es => e.isCanonical && allCanonical es

end

mutual

/-- Whether no operand is missing in a tree. -/
def isComplete : Expr → Bool
  | .term _ => true
  | .and es | .or es => allComplete es
  | .not e | .group e => e.isComplete
  | .empty => false

/-- Whether no operand is missing in any tree of a list. -/
def allComplete : List Expr → Bool
  | [] => true
  | e :: es => e.isComplete && allComplete es

end

theorem allCanonical_eq_all (es : List Expr) : allCanonical es = es.all isCanonical := by
  induction es with
  | nil => rfl
  | cons e es ih => rw [allCanonical, ih, List.all_cons]

theorem allCanonical_cons {e : Expr} {es : List Expr} :
    allCanonical (e :: es) = true ↔ e.isCanonical = true ∧ allCanonical es = true := by
  rw [allCanonical, Bool.and_eq_true]

theorem isCanonical_and {es : List Expr} :
    (Expr.and es).isCanonical = true ↔
      2 ≤ es.length ∧ (∀ e ∈ es, e.isPrimary = true) ∧ allCanonical es = true := by
  simp [isCanonical, and_assoc]

theorem isCanonical_or {es : List Expr} :
    (Expr.or es).isCanonical = true ↔
      2 ≤ es.length ∧ (∀ e ∈ es, e.isOr = false) ∧ allCanonical es = true := by
  simp [isCanonical, and_assoc]

theorem isCanonical_not {e : Expr} :
    (Expr.not e).isCanonical = true ↔ e.isPrimary = true ∧ e.isCanonical = true := by
  rw [isCanonical, Bool.and_eq_true]

theorem allComplete_cons {e : Expr} {es : List Expr} :
    allComplete (e :: es) = true ↔ e.isComplete = true ∧ allComplete es = true := by
  rw [allComplete, Bool.and_eq_true]

theorem isComplete_conj (es : List Expr) : (conj es).isComplete = allComplete es := by
  match es with
  | [] => rfl
  | [e] => simp [conj, allComplete]
  | _ :: _ :: _ => rfl

theorem isComplete_disj (es : List Expr) : (disj es).isComplete = allComplete es := by
  match es with
  | [] => rfl
  | [e] => simp [disj, allComplete]
  | _ :: _ :: _ => rfl

/-- A primary is no disjunction. -/
theorem isOr_of_isPrimary {e : Expr} (h : e.isPrimary = true) : e.isOr = false := by
  cases e <;> simp_all [isPrimary, isOr]

/-- Two or more operands do not stand for themselves. -/
theorem conj_of_two_le {es : List Expr} (h : 2 ≤ es.length) : conj es = .and es := by
  match es with
  | [] | [_] => simp at h
  | _ :: _ :: _ => rfl

theorem disj_of_two_le {es : List Expr} (h : 2 ≤ es.length) : disj es = .or es := by
  match es with
  | [] | [_] => simp at h
  | _ :: _ :: _ => rfl

/-- The conjunction of canonical primaries is canonical, and no disjunction. -/
theorem canonical_conj {es : List Expr} (hne : es ≠ [])
    (h : ∀ e ∈ es, e.isPrimary = true ∧ e.isCanonical = true) :
    (conj es).isCanonical = true ∧ (conj es).isOr = false := by
  match es with
  | [] => exact absurd rfl hne
  | [e] => exact ⟨(h e (by simp)).2, isOr_of_isPrimary (h e (by simp)).1⟩
  | e :: f :: es =>
    have hp : (e :: f :: es).all isPrimary = true := List.all_eq_true.mpr fun x hx => (h x hx).1
    have hc : (e :: f :: es).all isCanonical = true := List.all_eq_true.mpr fun x hx => (h x hx).2
    refine ⟨?_, rfl⟩
    rw [conj, isCanonical, hp, allCanonical_eq_all, hc]
    · simp
    · simp

/-- The disjunction of canonical trees that are no disjunctions is canonical. -/
theorem canonical_disj {es : List Expr} (hne : es ≠ [])
    (h : ∀ e ∈ es, e.isOr = false ∧ e.isCanonical = true) : (disj es).isCanonical = true := by
  match es with
  | [] => exact absurd rfl hne
  | [e] => exact (h e (by simp)).2
  | e :: f :: es =>
    have hp : (e :: f :: es).all (!·.isOr) = true :=
      List.all_eq_true.mpr fun x hx => by simp [(h x hx).1]
    have hc : (e :: f :: es).all isCanonical = true := List.all_eq_true.mpr fun x hx => (h x hx).2
    rw [disj, isCanonical, hp, allCanonical_eq_all, hc]
    · simp
    · simp

end Concordance.Query.Expr

import Concordance.Query.Expr

/-!
# The grammar of query expressions

Which tokens spell which tree, as a relation:

    disjunction := conjunction (OR conjunction)*
    conjunction := primary (AND primary)*
    primary     := term | '(' disjunction ')' | NOT primary

A derivation is given a bound on how many groups and negations stand inside each other.

These are the rules that `parse` is documented with.

* `Disjunction.flatten`: a tree is spelled by no tokens but its own.
* `Disjunction.nesting_le`: the bound holds of the tree.
-/

namespace Concordance.Query

open Concordance.Query.Expr (nesting nestingAll flattenMore)

mutual

/-- The tokens of a primary. -/
inductive Primary : Nat → List Token → Expr → Prop
  | term (n : Nat) (w : Text) : Primary n [.term w] (.term w)
  | group {n : Nat} {ts : List Token} {e : Expr} (h : Disjunction n ts e) :
    Primary (n + 1) (.lparen :: (ts ++ [.rparen])) (.group e)
  | not {n : Nat} {ts : List Token} {e : Expr} (h : Primary n ts e) :
    Primary (n + 1) (.not :: ts) (.not e)

/-- The tokens of primaries with `AND` between neighbours. -/
inductive Primaries : Nat → List Token → List Expr → Prop
  | one {n : Nat} {ts : List Token} {e : Expr} (h : Primary n ts e) : Primaries n ts [e]
  | more {n : Nat} {ts us : List Token} {e : Expr} {es : List Expr} (h : Primary n ts e)
    (hs : Primaries n us es) : Primaries n (ts ++ .and :: us) (e :: es)

/-- The tokens of conjunctions with `OR` between neighbours. -/
inductive Conjunctions : Nat → List Token → List Expr → Prop
  | one {n : Nat} {ts : List Token} {es : List Expr} (h : Primaries n ts es) :
    Conjunctions n ts [.conj es]
  | more {n : Nat} {ts us : List Token} {es fs : List Expr} (h : Primaries n ts es)
    (hs : Conjunctions n us fs) : Conjunctions n (ts ++ .or :: us) (.conj es :: fs)

/-- The tokens of a disjunction. -/
inductive Disjunction : Nat → List Token → Expr → Prop
  | of {n : Nat} {ts : List Token} {es : List Expr} (h : Conjunctions n ts es) :
    Disjunction n ts (.disj es)

end

/-! ## What a derivation says of its tree -/

theorem flatten_conj (es : List Expr) : (Expr.conj es).flatten = Expr.flattenAll .and es := by
  match es with
  | [] => rfl
  | [e] => simp [Expr.conj, Expr.flattenAll, flattenMore]
  | _ :: _ :: _ => rfl

theorem flatten_disj (es : List Expr) : (Expr.disj es).flatten = Expr.flattenAll .or es := by
  match es with
  | [] => rfl
  | [e] => simp [Expr.disj, Expr.flattenAll, flattenMore]
  | _ :: _ :: _ => rfl

theorem flattenAll_cons (op : Token) (e : Expr) {es : List Expr} (h : es ≠ []) :
    Expr.flattenAll op (e :: es) = e.flatten ++ op :: Expr.flattenAll op es := by
  cases es with
  | nil => exact absurd rfl h
  | cons f fs => rfl

theorem nesting_conj (es : List Expr) : (Expr.conj es).nesting = nestingAll es := by
  match es with
  | [] => rfl
  | [e] => simp [Expr.conj, nestingAll]
  | _ :: _ :: _ => rfl

theorem nesting_disj (es : List Expr) : (Expr.disj es).nesting = nestingAll es := by
  match es with
  | [] => rfl
  | [e] => simp [Expr.disj, nestingAll]
  | _ :: _ :: _ => rfl

theorem Primaries.ne_nil {n : Nat} {ts : List Token} {es : List Expr} (h : Primaries n ts es) :
    es ≠ [] := by
  cases h <;> simp

theorem Conjunctions.ne_nil {n : Nat} {ts : List Token} {es : List Expr}
    (h : Conjunctions n ts es) : es ≠ [] := by
  cases h <;> simp

mutual

theorem Primary.flatten {n : Nat} {ts : List Token} {e : Expr} : Primary n ts e → e.flatten = ts
  | .term _ _ => rfl
  | .group h => by rw [Expr.flatten, h.flatten]
  | .not h => by rw [Expr.flatten, h.flatten]

theorem Primaries.flatten {n : Nat} {ts : List Token} {es : List Expr} :
    Primaries n ts es → Expr.flattenAll .and es = ts
  | .one h => by simp [Expr.flattenAll, flattenMore, h.flatten]
  | .more h hs => by rw [flattenAll_cons _ _ hs.ne_nil, h.flatten, hs.flatten]

theorem Conjunctions.flatten {n : Nat} {ts : List Token} {es : List Expr} :
    Conjunctions n ts es → Expr.flattenAll .or es = ts
  | .one h => by simp [Expr.flattenAll, flattenMore, flatten_conj, h.flatten]
  | .more h hs => by rw [flattenAll_cons _ _ hs.ne_nil, flatten_conj, h.flatten, hs.flatten]

/-- A tree is spelled by no tokens but its own. -/
theorem Disjunction.flatten {n : Nat} {ts : List Token} {e : Expr} :
    Disjunction n ts e → e.flatten = ts
  | .of h => by rw [flatten_disj, h.flatten]

end

mutual

theorem Primary.nesting_le {n : Nat} {ts : List Token} {e : Expr} : Primary n ts e → e.nesting ≤ n
  | .term _ _ => Nat.zero_le _
  | .group h => Nat.succ_le_succ h.nesting_le
  | .not h => Nat.succ_le_succ h.nesting_le

theorem Primaries.nesting_le {n : Nat} {ts : List Token} {es : List Expr} :
    Primaries n ts es → nestingAll es ≤ n
  | .one h => Nat.max_le.mpr ⟨h.nesting_le, Nat.zero_le _⟩
  | .more h hs => Nat.max_le.mpr ⟨h.nesting_le, hs.nesting_le⟩

theorem Conjunctions.nesting_le {n : Nat} {ts : List Token} {es : List Expr} :
    Conjunctions n ts es → nestingAll es ≤ n
  | .one h => Nat.max_le.mpr ⟨nesting_conj _ ▸ h.nesting_le, Nat.zero_le _⟩
  | .more h hs => Nat.max_le.mpr ⟨nesting_conj _ ▸ h.nesting_le, hs.nesting_le⟩

/-- The bound holds of the tree. -/
theorem Disjunction.nesting_le {n : Nat} {ts : List Token} {e : Expr} :
    Disjunction n ts e → e.nesting ≤ n
  | .of h => nesting_disj _ ▸ h.nesting_le

end

end Concordance.Query

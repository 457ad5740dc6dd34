import Concordance.Query.Token

/-!
# Query expressions

The tree of a query, its text, its tokens and its terms. A conjunction or disjunction holds a list
of operands of any length; `conj` and `disj` build one only where there is not exactly one operand.
`empty` stands for an operand that is missing.

Model of `Expr`: `and` (`conj`), `or` (`disj`), `terms`, and the text that a tree is displayed as.
The tokens of a tree, its nesting and its height are what is said of it elsewhere.
-/

namespace Concordance.Query

/-- The tree of a query. -/
inductive Expr where
  | term (word : Text)
  | and (operands : List Expr)
  | or (operands : List Expr)
  | not (operand : Expr)
  | group (inner : Expr)
  | empty
  deriving Repr

instance : Inhabited Expr := ⟨.empty⟩

namespace Expr

/-- The conjunction of operands; a single one stands for itself (`Expr.and`). -/
def conj : List Expr → Expr
  | [e] => e
  | es => .and es

/-- The disjunction of operands; a single one stands for itself (`Expr.or`). -/
def disj : List Expr → Expr
  | [e] => e
  | es => .or es

mutual

/-- Equality of trees, decided node by node. -/
def decEq : (e f : Expr) → Decidable (e = f)
  | .term v, .term w => decidable_of_iff (v = w) (by simp)
  | .and es, .and fs => have := decEqList es fs; decidable_of_iff (es = fs) (by simp)
  | .or es, .or fs => have := decEqList es fs; decidable_of_iff (es = fs) (by simp)
  | .not e, .not f => have := decEq e f; decidable_of_iff (e = f) (by simp)
  | .group e, .group f => have := decEq e f; decidable_of_iff (e = f) (by simp)
  | .empty, .empty => isTrue rfl
  | .term _, .and _ | .term _, .or _ | .term _, .not _ | .term _, .group _ | .term _, .empty
  | .and _, .term _ | .and _, .or _ | .and _, .not _ | .and _, .group _ | .and _, .empty
  | .or _, .term _ | .or _, .and _ | .or _, .not _ | .or _, .group _ | .or _, .empty
  | .not _, .term _ | .not _, .and _ | .not _, .or _ | .not _, .group _ | .not _, .empty
  | .group _, .term _ | .group _, .and _ | .group _, .or _ | .group _, .not _ | .group _, .empty
  | .empty, .term _ | .empty, .and _ | .empty, .or _ | .empty, .not _ | .empty, .group _ =>
    isFalse (by simp)

/-- Equality of lists of trees. -/
def decEqList : (es fs : List Expr) → Decidable (es = fs)
  | [], [] => isTrue rfl
  | [], _ :: _ => isFalse (by simp)
  | _ :: _, [] => isFalse (by simp)
  | e :: es, f :: fs =>
    have := decEq e f
    have := decEqList es fs
    decidable_of_iff (e = f ∧ es = fs) (by simp)

end

instance : DecidableEq Expr := decEq

/-! ## Text -/

mutual

/-- The text of a tree. Nothing but a group has parentheses. -/
def toText : Expr → Text
  | .term word => word
  | .and es => joinTexts [' ', 'A', 'N', 'D', ' '] es
  | .or es => joinTexts [' ', 'O', 'R', ' '] es
  | .not e => 'N' :: 'O' :: 'T' :: ' ' :: toText e
  | .group e => '(' :: (toText e ++ [')'])
  | .empty => ['<', 'e', 'm', 'p', 't', 'y', '>']

/-- The texts of operands, with a separator between neighbours. -/
def joinTexts (sep : Text) : List Expr → Text
  | [] => []
  | e :: es => toText e ++ joinMore sep es

/-- The texts of the operands after the first, each preceded by the separator. -/
def joinMore (sep : Text) : List Expr → Text
  | [] => []
  | e :: es => sep ++ toText e ++ joinMore sep es

end

/-! ## Tokens and terms -/

mutual

/-- The tokens that spell a tree; nothing spells a missing operand. -/
def flatten : Expr → List Token
  | .term word => [.term word]
  | .and es => flattenAll .and es
  | .or es => flattenAll .or es
  | .not e => .not :: flatten e
  | .group e => .lparen :: (flatten e ++ [.rparen])
  | .empty => []

/-- The tokens of operands, with an operator between neighbours. -/
def flattenAll (op : Token) : List Expr → List Token
  | [] => []
  | e :: es => flatten e ++ flattenMore op es

/-- The tokens of the operands after the first, each preceded by the operator. -/
def flattenMore (op : Token) : List Expr → List Token
  | [] => []
  | e :: es => op :: (flatten e ++ flattenMore op es)

end

mutual

/-- The words that a tree looks up, in order, with repetitions. -/
def terms : Expr → List Text
  | .term word => [word]
  | .and es | .or es => termsAll es
  | .not e | .group e => terms e
  | .empty => []

/-- The words that operands look up. -/
def termsAll : List Expr → List Text
  | [] => []
  | e :: es => terms e ++ termsAll es

end

/-! ## Depth -/

mutual

/-- The most negations and groups that a path from the root crosses. -/
def nesting : Expr → Nat
  | .term _ | .empty => 0
  | .and es | .or es => nestingAll es
  | .not e | .group e => nesting e + 1

/-- The greatest nesting among operands. -/
def nestingAll : List Expr → Nat
  | [] => 0
  | e :: es => max (nesting e) (nestingAll es)

end

mutual

/-- The number of nodes on a longest path from the root. -/
def height : Expr → Nat
  | .term _ | .empty => 1
  | .and es | .or es => heightAll es + 1
  | .not e | .group e => height e + 1

/-- The greatest height among operands. -/
def heightAll : List Expr → Nat
  | [] => 0
  | e :: es => max (height e) (heightAll es)

end

end Expr

end Concordance.Query

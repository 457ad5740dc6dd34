import Concordance.Query.Expr

/-!
# Reading a query expression

Reading follows the grammar

    disjunction := conjunction (OR conjunction)*
    conjunction := primary (AND primary)*
    primary     := term | '(' disjunction ')' | NOT primary

and never fails. A primary that cannot start at the next token is `empty` and takes nothing; a group
is closed by whatever token follows its inner expression, which is taken only if it is a closing
parenthesis. What follows the outermost expression is left over.

Reading may be given only so much room: a parenthesis or `NOT` takes one level of it, and where none
is left, such a token cannot start a primary. `room = none` is unlimited.

Each reader returns the tokens that it leaves with the fact that they are no more than it was given,
which is why reading ends.

Model of `parse_or`, `parse_and`, `parse_primary`, `nested`, `parse`, `parse_query`, and
`ParsedQuery` with `trailing_text`. There, a position moves along the tokens; here, each reader
returns those that are left.

Out of scope: the stack that reading takes, which `MAX_NESTING` bounds.
-/

namespace Concordance.Query

/-- What a reader makes of some tokens, and the tokens that it leaves. -/
abbrev Reading (α : Type) (ts : List Token) := { r : α × List Token // r.2.length ≤ ts.length }

/-- The levels of nesting that remain inside a parenthesis or `NOT`, if one may be opened
(`nested`). -/
def inside? : Option Nat → Option (Option Nat)
  | none => some none
  | some 0 => none
  | some (n + 1) => some (some n)

/-- The tokens after a closing parenthesis, where they start with one. -/
def dropClose : List Token → List Token
  | .rparen :: r => r
  | ts => ts

theorem length_dropClose_le (ts : List Token) : (dropClose ts).length ≤ ts.length := by
  unfold dropClose
  split
  · exact Nat.le_succ _
  · exact Nat.le_refl _

mutual

/-- Reads a disjunction (`parse_or`). -/
def readOr (room : Option Nat) (ts : List Token) : Reading Expr ts :=
  let ⟨p, hp⟩ := readAnd room ts
  let ⟨q, hq⟩ := readOrs room p.2
  ⟨(.disj (p.1 :: q.1), q.2), Nat.le_trans hq hp⟩
termination_by ts.length * 5 + 4
decreasing_by all_goals omega

/-- Reads what `OR` adds to a disjunction. -/
def readOrs (room : Option Nat) (ts : List Token) : Reading (List Expr) ts :=
  match ts with
  | .or :: r =>
    let ⟨p, hp⟩ := readAnd room r
    let ⟨q, hq⟩ := readOrs room p.2
    ⟨(p.1 :: q.1, q.2), Nat.le_succ_of_le (Nat.le_trans hq hp)⟩
  | ts => ⟨([], ts), Nat.le_refl _⟩
termination_by ts.length * 5 + 3
decreasing_by all_goals simp only [List.length_cons]; omega

/-- Reads a conjunction (`parse_and`). -/
def readAnd (room : Option Nat) (ts : List Token) : Reading Expr ts :=
  let ⟨p, hp⟩ := readPrimary room ts
  let ⟨q, hq⟩ := readAnds room p.2
  ⟨(.conj (p.1 :: q.1), q.2), Nat.le_trans hq hp⟩
termination_by ts.length * 5 + 2
decreasing_by all_goals omega

/-- Reads what `AND` adds to a conjunction. -/
def readAnds (room : Option Nat) (ts : List Token) : Reading (List Expr) ts :=
  match ts with
  | .and :: r =>
    let ⟨p, hp⟩ := readPrimary room r
    let ⟨q, hq⟩ := readAnds room p.2
    ⟨(p.1 :: q.1, q.2), Nat.le_succ_of_le (Nat.le_trans hq hp)⟩
  | ts => ⟨([], ts), Nat.le_refl _⟩
termination_by ts.length * 5 + 1
decreasing_by all_goals simp only [List.length_cons]; omega

/-- Reads a primary (`parse_primary`). -/
def readPrimary (room : Option Nat) (ts : List Token) : Reading Expr ts :=
  match ts with
  | .term word :: r => ⟨(.term word, r), Nat.le_succ _⟩
  | .lparen :: r =>
    match inside? room with
    | none => ⟨(.empty, .lparen :: r), Nat.le_refl _⟩
    | some room' =>
      let ⟨p, hp⟩ := readOr room' r
      ⟨(.group p.1, dropClose p.2), Nat.le_succ_of_le (Nat.le_trans (length_dropClose_le _) hp)⟩
  | .not :: r =>
    match inside? room with
    | none => ⟨(.empty, .not :: r), Nat.le_refl _⟩
    | some room' =>
      let ⟨p, hp⟩ := readPrimary room' r
      ⟨(.not p.1, p.2), Nat.le_succ_of_le hp⟩
  | ts => ⟨(.empty, ts), Nat.le_refl _⟩
termination_by ts.length * 5
decreasing_by all_goals simp only [List.length_cons]; omega

end

/-- A query expression, and the tokens after it that belong to no expression (`ParsedQuery`). -/
structure Parsed where
  expr : Expr
  trailing : List Token
  deriving DecidableEq, Repr

/-- The text of the tokens left over (`trailing_text`). -/
def Parsed.trailingText (p : Parsed) : Text := Token.textOf p.trailing

/-- The expression that tokens spell, read with so much room for nesting. -/
def parseWithin (room : Option Nat) (ts : List Token) : Parsed :=
  let p := readOr room ts
  ⟨p.1.1, p.1.2⟩

/-- The deepest chain of parentheses and `NOT` that is read (`MAX_NESTING`). -/
def maxNesting : Nat := 256

/-- The expression that tokens spell. -/
def parse (ts : List Token) : Parsed := parseWithin (some maxNesting) ts

/-- The expression that a query spells (`parse_query`). -/
def parseQuery (q : Text) : Parsed := parse (tokenize q)

end Concordance.Query

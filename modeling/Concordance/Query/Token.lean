import Concordance.Text.Alphanumeric
import Concordance.Text.Lower
import Concordance.Text.Space

/-!
# The tokens of a query

A query is read in two steps. `lexemes` cuts it into parentheses and runs, a run being as many
characters as follow one another without white space or a parenthesis. `Lexeme.tokens` then reads a
run: one that starts with `and`, `or` or `not` (in any ASCII case), where the word ends after it, is
that operator and a term of whatever follows; any other run is one term. Terms are lower-cased.
Reading never fails.

Model of `Token`, `tokenize`, `lex_run` and `leading_keyword`, on characters; `Query/Scan` has the
same on bytes.

* `lexemesFrom_append_space`, `lexemesFrom_append_paren`: white space and parentheses cut a query
  into parts that are read independently.
-/

namespace Concordance.Query

open Text (isSpace isWordChar)

/-- A token of a query. -/
inductive Token where
  | term (word : Text)
  | and
  | or
  | not
  | lparen
  | rparen
  deriving DecidableEq, Repr

/-- The text of a token; operators are in capitals. -/
def Token.toText : Token → Text
  | .term word => word
  | .and => ['A', 'N', 'D']
  | .or => ['O', 'R']
  | .not => ['N', 'O', 'T']
  | .lparen => ['(']
  | .rparen => [')']

/-- The texts of tokens, separated by single spaces. -/
def Token.textOf (ts : List Token) : Text := Text.join [' '] (ts.map Token.toText)

/-! ## Cutting a query -/

/-- The token of a parenthesis. -/
def parenToken? (c : Char) : Option Token :=
  if c = '(' then some .lparen else if c = ')' then some .rparen else none

/-- A part of a query: a parenthesis, or a run of other characters without white space. -/
inductive Lexeme where
  | paren (token : Token)
  | run (text : Text)
  deriving DecidableEq, Repr

/-- The run that ends here, given last character first, if it is not empty. -/
def endRun (run : Text) : List Lexeme := if run.isEmpty then [] else [.run run.reverse]

/-- The lexemes of a query whose text so far ends with an unfinished run, given last character
first. -/
def lexemesFrom (run : Text) : Text → List Lexeme
  | [] => endRun run
  | c :: r =>
    if isSpace c then endRun run ++ lexemesFrom [] r
    else match parenToken? c with
      | some p => endRun run ++ .paren p :: lexemesFrom [] r
      | none => lexemesFrom (c :: run) r

/-- The lexemes of a query. -/
def lexemes (q : Text) : List Lexeme := lexemesFrom [] q

/-! ## Reading a run -/

/-- The text after a leading word, letters compared without regard to ASCII case. -/
def dropWord? : (word run : Text) → Option Text
  | [], run => some run
  | _ :: _, [] => none
  | k :: word, c :: run => if c.toLower = k then dropWord? word run else none

/-- Whether a word ends before a text. -/
def atBoundary : Text → Bool
  | [] => true
  | c :: _ => !isWordChar c

/-- The operator words (`KEYWORDS`). -/
def operatorWords : List (Text × Token) :=
  [(['a', 'n', 'd'], .and), (['o', 'r'], .or), (['n', 'o', 't'], .not)]

/-- The operator that a run starts with, and what follows it in the run (`leading_keyword`). -/
def leadingOperator? (run : Text) : Option (Token × Text) :=
  operatorWords.findSome? fun (word, op) =>
    ((dropWord? word run).filter atBoundary).map fun rest => (op, rest)

/-- The tokens of a lexeme (`lex_run`). -/
def Lexeme.tokens : Lexeme → List Token
  | .paren p => [p]
  | .run text =>
    match leadingOperator? text with
    | some (op, []) => [op]
    | some (op, rest) => [op, .term (Text.lower rest)]
    | none => [.term (Text.lower text)]

/-- The tokens of a query. -/
def tokenize (q : Text) : List Token := (lexemes q).flatMap Lexeme.tokens

/-! ## Independence of the parts -/

theorem lexemesFrom_append_space (run a b : Text) {c : Char} (hc : isSpace c = true) :
    lexemesFrom run (a ++ c :: b) = lexemesFrom run a ++ lexemesFrom [] b := by
  induction a generalizing run with
  | nil => simp [lexemesFrom, hc]
  | cons d a ih =>
    simp only [List.cons_append, lexemesFrom]
    split
    · simp [ih]
    · split <;> simp [ih]

theorem lexemesFrom_append_paren (run a b : Text) {c : Char} {p : Token} (hs : isSpace c = false)
    (hc : parenToken? c = some p) :
    lexemesFrom run (a ++ c :: b) = lexemesFrom run a ++ .paren p :: lexemesFrom [] b := by
  induction a generalizing run with
  | nil => simp [lexemesFrom, hs, hc]
  | cons d a ih =>
    simp only [List.cons_append, lexemesFrom]
    split
    · simp [ih]
    · split <;> simp [ih]

end Concordance.Query

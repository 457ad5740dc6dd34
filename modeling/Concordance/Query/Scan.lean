import Concordance.Query.Token
import Concordance.Text.Slice

/-!
# Reading a query in passes

The tokens of a query are read off its bytes from the left, in passes over what is still unread. A
pass leaves out the white space in front and takes one byte for a parenthesis, or else the bytes up
to the end of a run. As many bytes of the run as an operator word has are then compared with it, if
there is a boundary after them. All other slices must be at a boundary: a pass that takes one
elsewhere stops with a fault.

Model of `tokenize` (a pass is one turn of its loop), `lex_run` and `leading_keyword`, with the
slices that they take.

* `pass`: the tokens that a pass reads, and what it leaves unread.
* `passes`: the tokens that are read in a number of passes.
-/

namespace Concordance.Query

open Text (isSpace SliceFault)

/-- Whether a run ends before a character. -/
def endsRun (c : Char) : Bool := isSpace c || c == '(' || c == ')'

/-- What follows a word in a run that starts with it, in any ASCII case, if the word ends there. -/
def afterWord? (run word : Text) : Except SliceFault (Option Text) :=
  let size := (Text.bytes word).length
  match Text.splitAt? run size with
  | none => return none
  | some (head, _) => do
    let (_, rest) ← Text.splitAt run size
    return if head.map Char.toLower = word && atBoundary rest then some rest else none

/-- The operator that a run starts with, and what follows it in the run (`leading_keyword`). -/
def operatorOf? (run : Text) : Except SliceFault (Option (Token × Text)) :=
  operatorWords.findSomeM? fun (word, op) => return (← afterWord? run word).map (op, ·)

/-- The tokens of a run (`lex_run`). -/
def readRun (run : Text) : Except SliceFault (List Token) :=
  return match ← operatorOf? run with
  | some (op, rest) => if rest.isEmpty then [op] else [op, .term (Text.lower rest)]
  | none => [.term (Text.lower run)]

/-- The tokens that one pass reads, and what it leaves unread; nothing if nothing is left to
read. -/
def pass (unread : Text) : Except SliceFault (Option (List Token × Text)) :=
  let start := Text.trimStart unread
  match start.head? with
  | none => return none
  | some c =>
    match parenToken? c with
    | some p => do
      let (_, rest) ← Text.splitAt start 1
      return some ([p], rest)
    | none => do
      let (run, rest) ← Text.splitAt start
        ((Text.findByte? endsRun start).getD (Text.bytes start).length)
      return some (← readRun run, rest)

/-- The tokens of a query, if no more than so many passes come to its end. -/
def passes : Nat → Text → Except SliceFault (Option (List Token))
  | 0, _ => return none
  | n + 1, unread => do
    match ← pass unread with
    | none => return some []
    | some (ts, rest) => return (← passes n rest).map (ts ++ ·)

end Concordance.Query

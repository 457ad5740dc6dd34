import Concordance.Error
import Concordance.Index
import Concordance.Text.Lower
import Concordance.Text.Space

/-!
# The index as text

An index is written as one line for each word: the word, then its documents, each after a space.
Reading is more lenient than writing. Fields may be separated by any white space, blank lines are
passed over, words are lower-cased, and of several lines for a word the last one counts. The first
field that is no document number makes the whole text unreadable.

Model of `write_index` and `parse_index`.

Out of scope: the log line for a word that comes again. Output that is refused is part of
`FileTree.replaceFile`.
-/

namespace Concordance.Index

/-- The line of a word. -/
def lineOf (word : Text) (ds : Postings) : Text :=
  word ++ (ds.toList.flatMap (fun d => ' ' :: d.toText) ++ ['\n'])

/-- The text of an index (`write_index`). -/
def toText (x : Index) : Text := x.toList.flatMap fun e => lineOf e.1 e.2

/-- The documents that fields spell, or the first field that spells none. -/
def documentsOf : List Text → Except Text (List DocId)
  | [] => .ok []
  | f :: fs =>
    match DocId.ofText? f with
    | none => .error f
    | some d => (documentsOf fs).map (d :: ·)

/-- The word of a line as written, with its documents; nothing for a blank line. -/
def readLine (line : Text) : Except LineFault (Option (Text × Postings)) :=
  match Text.fields line with
  | [] => .ok none
  | word :: fs =>
    match documentsOf fs with
    | .error field => .error (.documentOfWord field word)
    | .ok ds => .ok (some (word, .ofList ds))

/-- The index after further lines, the first of which has a number. -/
def readLines (n : Nat) (x : Index) : List Text → Except LineError Index
  | [] => .ok x
  | line :: rest =>
    match readLine line with
    | .error fault => .error ⟨n, fault⟩
    | .ok none => readLines (n + 1) x rest
    | .ok (some (word, ds)) => readLines (n + 1) (x.replace (Text.lower word) ds) rest

/-- The index that a text spells, or its first malformed line (`parse_index`). -/
def ofText (t : Text) : Except LineError Index := readLines 1 ∅ (Text.lines t)

end Concordance.Index

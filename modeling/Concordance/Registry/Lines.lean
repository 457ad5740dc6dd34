import Concordance.Error
import Concordance.Registry
import Concordance.Text.Space

/-!
# The registry as text

A registry has one document on each line: its number, a tab and its address. A line of digits alone
registers its document with an empty address; other lines without a tab are passed over, as are
blank ones. White space around a line, a number or an address does not count.

Model of `parse_registry`.

Out of scope: the log lines for lines that are passed over.
-/

namespace Concordance.Registry

/-- The document that a line registers, with its address; nothing for a line that is passed over. -/
def readLine (line : Text) : Except LineFault (Option (DocId × Text)) :=
  let line := Text.trim line
  match Text.cutAt (· == '\t') line with
  | some (field, url) =>
    match DocId.ofText? (Text.trim field) with
    | some d => .ok (some (d, Text.trim url))
    | none => .error (.document field)
  | none =>
    if Text.isDigits line then
      match DocId.ofText? line with
      | some d => .ok (some (d, []))
      | none => .error (.document line)
    else .ok none

/-- The registry after further lines, the first of which has a number. -/
def readLines (n : Nat) (r : Registry) : List Text → Except LineError Registry
  | [] => .ok r
  | line :: rest =>
    match readLine line with
    | .error fault => .error ⟨n, fault⟩
    | .ok none => readLines (n + 1) r rest
    | .ok (some (d, url)) => readLines (n + 1) (r.insert d url) rest

/-- The registry that a text spells, or its first malformed line (`parse_registry`). -/
def ofText (t : Text) : Except LineError Registry := readLines 1 ∅ (Text.lines t)

end Concordance.Registry

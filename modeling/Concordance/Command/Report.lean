import Concordance.Builder
import Concordance.Command.Invocation
import Concordance.Json.Forms
import Concordance.Json.Write

/-!
# What commands show

The text that a command writes when it is done.

Model of `print_hits`, of the report of the build command, and of what `prompt` writes.
-/

namespace Concordance.Command

/-- The report of an index that was built. -/
def buildReport (output : Text) (s : Stats) : Text :=
  "✅ Inverted index written to ".toList ++ output ++
    "\n📊 Pages: ".toList ++ Text.toDecimal s.documents ++
    " (".toList ++ Text.toDecimal s.withoutWords ++
    " without lemmas)\n📊 Unique terms: ".toList ++ Text.toDecimal s.words ++ ['\n']

/-- The line of a hit. -/
def hitLine (h : Hit) : Text := "  ".toList ++ h.doc.toText ++ '\t' :: (h.url ++ ['\n'])

/-- Hits as lines of text, their number first. -/
def textReport (hits : List Hit) : Text :=
  "\nFound ".toList ++ Text.toDecimal hits.length ++ " documents\n".toList ++ hits.flatMap hitLine

/-- Hits as a JSON value, with their query and their number (`JsonReport`). -/
def jsonReport (query : Text) (hits : List Hit) : Json.Value :=
  .obj [("query".toList, .ofText query), ("count".toList, .ofNat hits.length),
    ("results".toList, .arr (hits.map Hit.toJson))]

/-- Hits in a format (`print_hits`). -/
def hitReport (query : Text) (hits : List Hit) : Format → Text
  | .text => textReport hits
  | .json => (jsonReport query hits).indented 0 ++ ['\n']

/-- What is shown in place of hits if there is no query. -/
def emptyReport : Text := "Empty query.\n".toList

/-- What is shown to someone who is to type a query. -/
def prompt : Text :=
  ("Boolean search. Operators: AND, OR, NOT. Parentheses group.\n" ++
    "Example: (кошка AND собака) OR (река AND лес) OR море\n\nEnter query: ").toList

end Concordance.Command

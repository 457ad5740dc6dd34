import Concordance.Settings.Quoted
import Concordance.Settings.StandIn
import Concordance.Toml.Moment
import Concordance.Toml.Scalar
import Concordance.Toml.Table

/-!
# Reading TOML

A document is a sequence of statements, each on a line: headers, which name the table that is meant
from there on, and pairs of a key and a value. Blank lines and comments do not count. Control
characters stand nowhere, not even in comments. Values are at most `maxDepth` inside each other, and
a key has at most as many parts.

Model of how `Config.load_from` has a settings file read.

Out of scope: the text and the place of an error.
-/

namespace Concordance.Toml

open Reader
open Settings (Value isPlain readQuoted readEscape)

/-! ## Blanks -/

/-- Whether a character may stand between the parts of a line. -/
def isBlank (c : Char) : Bool := c = ' ' || c = '\t'

/-- The blanks between the parts of a line. -/
def skipBlanks : Reader Unit := do let _ ← whilst isBlank

/-- The end of a line. -/
def lineEnd : Reader Unit := char '\n' <|> lead ['\r', '\n']

/-- The end of the text. -/
def textEnd : Reader Unit := do if (← ahead).isEmpty then return else failure

/-- A comment. -/
def comment : Reader Unit := do
  char '#'
  let _ ← whilst isPlain

/-- What may stand after a statement. -/
def lineRest : Reader Unit := do
  skipBlanks
  let _ ← maybe comment
  lineEnd <|> textEnd

/-- The blanks, line ends and comments between the parts of a list. -/
def skipGaps : Reader Unit := do
  let _ ← many ((do let _ ← some1 isBlank) <|> lineEnd <|> (do comment; lineEnd))

/-! ## Texts -/

/-- A text between single quotes, where nothing is escaped. -/
def readRaw : Reader Text := do
  char '\''
  let t ← whilst fun c => isPlain c && c ≠ '\''
  char '\''
  return t

/-- One or two quotes that are not part of three. -/
def fewQuotes (q : Char) : Reader Text := do
  let run ← some1 (· = q)
  if run.length < 3 then return run else failure

/-- The quotes that end a text of several lines, and up to two that still belong to it. -/
def lastQuotes (q : Char) : Reader Text :=
  (do lead [q, q, q, q, q]; return [q, q]) <|> (do lead [q, q, q, q]; return [q]) <|> do
    lead [q, q, q]
    return []

/-- A text between three quotes at each end, without a line end at its start. -/
def readLong (q : Char) (content : Reader Text) : Reader Text := do
  lead [q, q, q]
  let _ ← maybe lineEnd
  let parts ← many (content <|> fewQuotes q)
  return parts.flatten ++ (← lastQuotes q)

/-- A line end in a text, which is a line feed however it is written. -/
def lineFeed : Reader Text := do
  lineEnd
  return ['\n']

/-- A line end after a backslash, which does not count, with all blanks and line ends after it. -/
def joinedLines : Reader Text := do
  char '\\'
  skipBlanks
  lineEnd
  let _ ← many ((do let _ ← some1 isBlank) <|> lineEnd)
  return []

/-- A part of a text between three double quotes. -/
def longContent : Reader Text :=
  some1 (fun c => isPlain c && c ≠ '"' && c ≠ '\\') <|> joinedLines <|> lineFeed <|> do
    char '\\'
    return [← readEscape]

/-- A part of a text between three single quotes. -/
def longRawContent : Reader Text := some1 (fun c => isPlain c && c ≠ '\'') <|> lineFeed

/-- A text. -/
def readText : Reader Text :=
  readLong '"' longContent <|> readQuoted <|> readLong '\'' longRawContent <|> readRaw

/-! ## Keys -/

/-- The most values inside each other, and the most parts of a key. -/
def maxDepth : Nat := 79

/-- A part of a key. -/
def readName : Reader Text :=
  readQuoted <|> readRaw <|> some1 fun c => c.isAlphanum || c = '_' || c = '-'

/-- A key: names with dots between them. -/
def readKey : Reader (List Text) := do
  let ks ← sepBy (do skipBlanks; let k ← readName; skipBlanks; return k) (char '.')
  if ks.length ≤ maxDepth then return ks else failure

/-! ## Values -/

/-- A word of letters, digits and the signs that numbers and moments have. -/
def readWord : Reader Text :=
  some1 fun c => c.isAlphanum || ['+', '-', '.', ':', '_'].contains c

/-- A moment whose first word is given. A date may be followed by a blank and a time. -/
def readMoment (word : Text) : Reader Moment := do
  match Moment.ofText? word with
  | none => failure
  | some (.date d) => (do char ' '; clock d) <|> return .date d
  | some m => return m
where
  /-- The time of a date. -/
  clock (d : Date) : Reader Moment := do
    match Moment.zonedOfText? (← readWord) with
    | some (t, zone) => return .both d t zone
    | none => failure

/-- The key of the text of a moment. -/
def momentKey : Text := "$__toml_private_datetime".toList

/-- A moment as a value: a table of one entry, the text in its one form. -/
def Moment.toValue (m : Moment) : Value := .table [(momentKey, .text m.toText)]

/-- A truth value, a number or a moment. -/
def readScalar : Reader Value := do
  let t ← readWord
  if t = "true".toList || t = "false".toList || isWhole t || isFloat t then return .scalar
  else Moment.toValue <$> readMoment t

/-- A list, with a comma after each value or each but the last. -/
def readList (value : Reader Value) : Reader Value := do
  char '['
  let items ← maybe do
    let vs ← sepBy (do skipGaps; let v ← value; skipGaps; return v) (char ',')
    let _ ← maybe (char ',')
    return vs
  skipGaps
  char ']'
  return .list (items.getD [])

/-- A pair of a key and a value. -/
def readPair (value : Reader Value) : Reader (List Text × Value) := do
  let k ← readKey
  char '='
  skipBlanks
  return (k, ← value)

/-- A table on one line. -/
def readTable (value : Reader Value) : Reader Value := do
  char '\x7b'
  let pairs ← maybe (sepBy (do let p ← readPair value; skipBlanks; return p) (char ','))
  skipBlanks
  char '\x7d'
  match (pairs.getD []).foldlM (fun es (k, v) => add v k es) [] with
  | some es => return .table (valuesOf es)
  | none => failure

/-- A value with at most so many values inside each other. -/
def readValue : Nat → Reader Value
  | 0 => .text <$> readText <|> readScalar
  | n + 1 =>
    .text <$> readText <|> readScalar <|> readList (readValue n) <|> readTable (readValue n)

/-! ## Documents -/

/-- What a line of a document says. -/
inductive Statement where
  | blank
  | table (path : List Text)
  | element (path : List Text)
  | pair (path : List Text) (value : Value)

/-- A statement, without what comes after it on its line. -/
def readStatement : Reader Statement := do
  skipBlanks
  match ← ahead with
  | '[' :: '[' :: _ =>
    lead ['[', '[']
    let path ← readKey
    lead [']', ']']
    return .element path
  | '[' :: _ =>
    char '['
    let path ← readKey
    char ']'
    return .table path
  | '#' :: _ | '\n' :: _ | '\r' :: _ => return .blank
  | _ => do
    let (path, v) ← readPair (readValue maxDepth)
    return .pair path v

/-- The statements of a document. A byte-order mark may come before them. -/
def readStatements : Reader (List Statement) := do
  let _ ← maybe (char '\uFEFF')
  let ss ← many (do let s ← readStatement; lineRest; return s)
  skipBlanks
  return ss

/-- The table that a document builds, and the path of the table that is meant, after a further
statement. -/
def obey : Entries × List Text → Statement → Option (Entries × List Text)
  | s, .blank => some s
  | (root, _), .table path => do
    let k ← path.getLast?
    return (← within (openTable k) path.dropLast root, path)
  | (root, _), .element path => do
    let k ← path.getLast?
    return (← within (openElement k) path.dropLast root, path)
  | (root, here), .pair path v => do return (← within (add v path) here root, here)

/-- The value that a document spells. -/
def read? (t : Text) : Option Value := do
  let ss ← readStatements.whole? t
  let (root, _) ← ss.foldlM obey ([], [])
  return .table (← Value.entriesOfFile? (valuesOf root))

end Concordance.Toml

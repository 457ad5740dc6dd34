import Concordance.Settings.Quoted
import Concordance.Settings.Value
import Concordance.Text.Decimal
import Concordance.Text.Space
import Concordance.Text.Utf8

/-!
# Values of variables

The text of a variable is read as a literal: a truth value, a number, a text between double quotes,
a character between single quotes, a list between brackets or a table between braces. Any other text
stands for itself without the white space around it, so that paths need no quotes; between brackets
or braces it ends at a comma, bracket or brace. A text that starts like a literal but goes on
differently stands for itself as it is, white space included.

Model of how `Config.load_from` has the text of a variable read.

Out of scope: the value of a number, since no setting is one.
-/

namespace Concordance.Settings

open Reader

/-- Whether a text is a number with a decimal point, after an optional sign. -/
def isPointed (t : Text) : Bool :=
  let unsigned := match t with
    | '+' :: r => r
    | '-' :: r => r
    | r => r
  let (mantissa, exponent) := match Text.cutAt (fun c => c = 'e' || c = 'E') unsigned with
    | some (m, '+' :: e) => (m, Text.isDigits e)
    | some (m, '-' :: e) => (m, Text.isDigits e)
    | some (m, e) => (m, Text.isDigits e)
    | none => (unsigned, true)
  exponent && match Text.cutAt (· = '.') mantissa with
    | some (whole, part) => Text.isDigits (whole ++ part)
    | none => false

/-- Whether a text is a whole number that fits in a word of 64 bits, with or without a sign. -/
def isWord (t : Text) : Bool :=
  match t with
  | '-' :: r => (Text.ofDigits? r).any (· ≤ UInt64.size / 2)
  | _ => (Text.ofDecimal? t).any (· < UInt64.size)

/-- The value of a text without quotes. -/
def Value.ofPlain (t : Text) : Value := if isPointed t || isWord t then .scalar else .text t

/-- Whether a character ends a text without quotes. -/
def isSeparator (c : Char) : Bool :=
  c = ',' || c = '[' || c = ']' || c = '\x7b' || c = '\x7d'

/-- Whether a character may stand in a key without quotes. -/
def isKeyChar (c : Char) : Bool := c.isAlphanum || c = '_' || c = '-'

/-- The blanks and line ends between the parts of a literal. -/
def skipBlanks : Reader Unit := do
  let _ ← whilst fun c => c = ' ' || c = '\t' || c = '\n' || c = '\x0c' || c = '\r'

/-- A thing with blanks around it. -/
def spaced (r : Reader α) : Reader α := do
  skipBlanks
  let a ← r
  skipBlanks
  return a

/-- So many things at most, with a comma after each but the last, up to a closing character. -/
def readUpTo (close : Char) (r : Reader α) : Nat → Reader (List α)
  | 0 => failure
  | n + 1 =>
    (do char close; return []) <|> do
      let a ← r
      (do char close; return [a]) <|> do char ','; return a :: (← readUpTo close r n)

/-- Things between brackets. -/
def enclosed (first last : Char) (r : Reader α) : Reader (List α) := do
  char first
  readUpTo last r (← ahead).length

/-- A text between double quotes. If anything in it is escaped, then what stands before the first
escape keeps only as many bytes as it has characters. -/
def readQuotedLiteral : Reader Text := do
  char '"'
  let before ← whilst isUnescaped
  let after ← many readQuotedChar
  char '"'
  return if after.isEmpty then before else Text.takeBytes before.length before ++ after

/-- A key of a table. -/
def readKey : Reader Text := readQuotedLiteral <|> some1 isKeyChar

/-- A literal with at most so many values inside each other. -/
def readLiteral : Nat → Reader Value
  | 0 => failure
  | n + 1 => spaced do
    match ← ahead with
    | '"' :: _ => .text <$> readQuotedLiteral
    | '\'' :: _ => do
      char '\''
      let c ← one fun _ => true
      char '\''
      return .text [c]
    | '[' :: _ => .list <$> enclosed '[' ']' (readLiteral n)
    | '\x7b' :: _ => do
      let entries ← enclosed '\x7b' '\x7d' do
        let k ← spaced readKey
        char '='
        return (k, ← readLiteral n)
      return .table (entries.foldl (fun es e => AscMap.insertInto e.1 e.2 es) [])
    | _ =>
      (do lead "true".toList; return .scalar) <|> (do lead "false".toList; return .scalar) <|> do
        return .ofPlain (Text.trim (← whilst (!isSeparator ·)))

/-- The value that the text of a variable stands for. -/
def Value.ofLiteral (t : Text) : Value :=
  ((readLiteral (t.length + 1)).whole? t).getD (.text t)

end Concordance.Settings

import Concordance.Text.Hexadecimal
import Concordance.Text.Reader

/-!
# Quoted texts in settings

A text between double quotes may hold every character but the control characters, of which only the
tab may stand for itself. A backslash starts an escape: a letter for a control character, a quote or
backslash for itself, or the code of a character as four or eight hexadecimal digits.

Model of the quoted texts in what `Config.load_from` reads.
-/

namespace Concordance.Settings

open Reader

/-- Whether a character may stand in a text of settings: no control character but the tab. -/
def isPlain (c : Char) : Bool := c = '\t' || ('\x20' ≤ c && c ≠ '\x7f')

/-- The character with a code. -/
def ofCode? (n : Nat) : Option Char := if n.isValidChar then some (Char.ofNat n) else none

/-- The character of a code of so many hexadecimal digits. -/
def readCode (digits : Nat) : Reader Char := fun t =>
  if t.length < digits then none
  else do return (← ofCode? (← Text.ofHexDigits? (t.take digits)), t.drop digits)

/-- What follows a backslash. -/
def readEscape : Reader Char := do
  match ← one fun _ => true with
  | 'b' => return '\x08'
  | 't' => return '\t'
  | 'n' => return '\n'
  | 'f' => return '\x0c'
  | 'r' => return '\r'
  | '"' => return '"'
  | '\\' => return '\\'
  | 'u' => readCode 4
  | 'U' => readCode 8
  | _ => failure

/-- Whether a character between double quotes stands for itself. -/
def isUnescaped (c : Char) : Bool := isPlain c && c ≠ '"' && c ≠ '\\'

/-- A character between double quotes. -/
def readQuotedChar : Reader Char := (do char '\\'; readEscape) <|> one isUnescaped

/-- A text between double quotes. -/
def readQuoted : Reader Text := do
  char '"'
  let t ← many readQuotedChar
  char '"'
  return t

end Concordance.Settings

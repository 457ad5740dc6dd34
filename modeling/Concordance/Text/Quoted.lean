import Concordance.Text.Hidden
import Concordance.Text.Basic

/-!
# Quoted texts

A text quoted in a message stands between double quotes. Quotes and backslashes are preceded by a
backslash, NUL, tab, line feed and carriage return have a letter, and every other character that
does not show is spelled by its code point in hexadecimal.

Model of the quoted form of a text in the messages of `parse_index` and `parse_registry`.
-/

namespace Concordance.Text

/-- The code point of a character in hexadecimal, between braces. -/
def spellCode (c : Char) : Text := ['\\', 'u', '\x7b'] ++ Nat.toDigits 16 c.toNat ++ ['\x7d']

/-- The spelling of a character inside quotes. -/
def quoteChar (c : Char) : Text :=
  if c = '"' then ['\\', '"']
  else if c = '\\' then ['\\', '\\']
  else if c = '\x00' then ['\\', '0']
  else if c = '\t' then ['\\', 't']
  else if c = '\n' then ['\\', 'n']
  else if c = '\r' then ['\\', 'r']
  else if isHidden c then spellCode c
  else [c]

/-- The text between double quotes, with the characters spelled that would not show. -/
def quoted (t : Text) : Text := '"' :: (t.flatMap quoteChar ++ ['"'])

end Concordance.Text

import Concordance.Json.Basic

/-!
# Writing JSON

A value is written either compactly, without any white space, or with each item and each member on
a line of its own, indented by two spaces for each level; a list or object without any is written
compactly in either case.

Model of the compact writer and of the indenting one that `print_hits` uses.
-/

namespace Concordance.Json

/-- A string from its spelling. -/
def quote (spelled : Text) : Text := '"' :: (spelled ++ ['"'])

/-- The text of a truth value. -/
def ofBool (b : Bool) : Text := if b then ['t', 'r', 'u', 'e'] else ['f', 'a', 'l', 's', 'e']

mutual

/-- The compact text of a value. -/
def Value.compact : Value → Text
  | .null => ['n', 'u', 'l', 'l']
  | .bool b => ofBool b
  | .num spelled => spelled
  | .str spelled => quote spelled
  | .arr items => '[' :: (compactItems items ++ [']'])
  | .obj members => '\x7b' :: (compactMembers members ++ ['\x7d'])

/-- The compact texts of items, with commas between them. -/
def compactItems : List Value → Text
  | [] => []
  | [v] => v.compact
  | v :: vs => v.compact ++ ',' :: compactItems vs

/-- The compact texts of members, with commas between them. -/
def compactMembers : List (Text × Value) → Text
  | [] => []
  | [(key, v)] => quote key ++ ':' :: v.compact
  | (key, v) :: ms => quote key ++ ':' :: (v.compact ++ ',' :: compactMembers ms)

end

/-- A new line at a level of indentation. -/
def newline (level : Nat) : Text := '\n' :: List.replicate (2 * level) ' '

mutual

/-- The indented text of a value that stands at a level. -/
def Value.indented (level : Nat) : Value → Text
  | .null => ['n', 'u', 'l', 'l']
  | .bool b => ofBool b
  | .num spelled => spelled
  | .str spelled => quote spelled
  | .arr [] => ['[', ']']
  | .arr items => '[' :: (indentedItems (level + 1) items ++ newline level ++ [']'])
  | .obj [] => ['\x7b', '\x7d']
  | .obj members => '\x7b' :: (indentedMembers (level + 1) members ++ newline level ++ ['\x7d'])

/-- The texts of items at a level, each on a line, with commas between them. -/
def indentedItems (level : Nat) : List Value → Text
  | [] => []
  | [v] => newline level ++ v.indented level
  | v :: vs => newline level ++ v.indented level ++ ',' :: indentedItems level vs

/-- The texts of members at a level, each on a line, with commas between them. -/
def indentedMembers (level : Nat) : List (Text × Value) → Text
  | [] => []
  | [(key, v)] => newline level ++ quote key ++ ':' :: ' ' :: v.indented level
  | (key, v) :: ms =>
    newline level ++ quote key ++
      ':' :: ' ' :: (v.indented level ++ ',' :: indentedMembers level ms)

end

end Concordance.Json

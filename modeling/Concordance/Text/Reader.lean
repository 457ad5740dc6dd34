import Concordance.Text.Basic

/-!
# Readers

A reader makes something of the start of a text and leaves the rest, or refuses the text. Readers
are combined as steps of which each starts where the one before it ended; where one refuses, an
alternative starts from the same place.
-/

namespace Concordance

/-- Makes something of the start of a text, and leaves the rest. -/
abbrev Reader (α : Type) := StateT Text Option α

namespace Reader

/-- What a reader makes of a whole text. -/
def whole? (r : Reader α) (t : Text) : Option α :=
  match r.run t with
  | some (a, []) => some a
  | _ => none

/-- One character that satisfies a test. -/
def one (p : Char → Bool) : Reader Char := fun
  | [] => none
  | c :: r => if p c then some (c, r) else none

/-- A given character. -/
def char (x : Char) : Reader Unit := do let _ ← one (· = x)

/-- A given text. -/
def lead (l : Text) : Reader Unit := fun t => (Text.dropLead l t).map ((), ·)

/-- All characters up to one that fails a test. -/
def whilst (p : Char → Bool) : Reader Text := fun t => some (t.takeWhile p, t.dropWhile p)

/-- One or more characters that satisfy a test, as many as there are. -/
def some1 (p : Char → Bool) : Reader Text := do return (← one p) :: (← whilst p)

/-- The text that is left, which stays. -/
def ahead : Reader Text := fun t => some (t, t)

/-- What a reader makes of the text, if it does not refuse it. -/
def maybe (r : Reader α) : Reader (Option α) := some <$> r <|> pure none

/-- What a reader makes of the text so many times at most. -/
def times (r : Reader α) : Nat → Reader (List α)
  | 0 => pure []
  | n + 1 => (do return (← r) :: (← times r n)) <|> pure []

/-- What a reader makes of the text as often as it can. A reader that takes some of the text each
time can do so no more often than there are characters. -/
def many (r : Reader α) : Reader (List α) := do times r (← ahead).length

/-- One or more things with something between neighbours. -/
def sepBy (r : Reader α) (between : Reader Unit) : Reader (List α) := do
  return (← r) :: (← many (do between; r))

end Reader

end Concordance

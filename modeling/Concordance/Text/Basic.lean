/-!
# Texts

A text is a list of characters, so that each rule on texts is a recursion on the list. This module
holds what does not depend on a class of characters: cutting at separators, joining, and lines.

Model of `lines`, `split_once` and `strip_prefix` as the readers of indexes, registries and
directories use them.

* `pieces_ne_nil`, `join_pieces`: cutting loses nothing but the separators.
-/

namespace Concordance

/-- A sequence of characters. -/
abbrev Text := List Char

/-- Texts are ordered by their characters from the first on, and those by their numbers. -/
instance : LE Text := List.instLE

instance : Std.IsLinearOrder Text := List.instIsLinearOrder

instance : Std.LawfulOrderLT Text := List.instLawfulOrderLTOfAsymmLt

namespace Text

/-- The parts of a text between the characters that satisfy a test: one more than such
characters. -/
def pieces (p : Char → Bool) : Text → List Text
  | [] => [[]]
  | c :: r =>
    if p c then [] :: pieces p r
    else match pieces p r with
      | [] => [[c]]
      | w :: ws => (c :: w) :: ws

/-- The texts in order, with a separator between neighbours. -/
def join (sep : Text) : List Text → Text
  | [] => []
  | [t] => t
  | t :: r => t ++ sep ++ join sep r

/-- Cuts at the first character that satisfies a test, which belongs to neither part. -/
def cutAt (p : Char → Bool) : Text → Option (Text × Text)
  | [] => none
  | c :: r => if p c then some ([], r) else (cutAt p r).map fun (a, b) => (c :: a, b)

/-- The text after a leading text. -/
def dropLead : (lead t : Text) → Option Text
  | [], t => some t
  | _ :: _, [] => none
  | a :: lead, c :: t => if a = c then dropLead lead t else none

/-- A line without the carriage return that ends it. -/
def dropReturn : Text → Text
  | [] => []
  | ['\r'] => []
  | c :: r => c :: dropReturn r

/-- The lines among the pieces between line feeds: what follows the last line feed is a line unless
it is empty, and only a carriage return before a line feed belongs to the line end. -/
def linesOf : List Text → List Text
  | [] => []
  | [t] => if t.isEmpty then [] else [t]
  | t :: r => dropReturn t :: linesOf r

/-- The lines of a text. -/
def lines (t : Text) : List Text := linesOf (pieces (· == '\n') t)

theorem pieces_ne_nil (p : Char → Bool) (t : Text) : pieces p t ≠ [] := by
  cases t with
  | nil => simp [pieces]
  | cons c r =>
    unfold pieces
    split
    · simp
    · split <;> simp

/-- Joining the pieces between the occurrences of one character gives the text back. -/
theorem join_pieces (x : Char) (t : Text) : join [x] (pieces (· == x) t) = t := by
  induction t with
  | nil => rfl
  | cons c r ih =>
    unfold pieces
    split
    · rename_i h
      rw [beq_iff_eq] at h
      subst h
      cases hp : pieces (· == c) r with
      | nil => exact absurd hp (pieces_ne_nil _ r)
      | cons w ws =>
        rw [hp] at ih
        simp [join, ih]
    · cases hp : pieces (· == x) r with
      | nil => exact absurd hp (pieces_ne_nil _ r)
      | cons w ws =>
        rw [hp] at ih
        cases ws with
        | nil => simpa [join] using ih
        | cons v vs => simpa [join] using ih

end Text

end Concordance

import Concordance.Text.Utf8

/-!
# Slices of texts by bytes

A text that is kept as bytes is cut by the number of bytes. Both parts are texts only where the cut
is at a boundary: at an end, or before a byte that starts a character. A cut that may be asked for
anywhere gives nothing at another place (`splitAt?`); one that must not is a fault there
(`splitAt`).

Model of the slices that `tokenize`, `lex_run` and `leading_keyword` take.
-/

namespace Concordance.Text

/-- Whether a byte starts a character; the others are those from 0x80 to 0xBF. -/
def startsChar (b : UInt8) : Bool := b < 0x80 || 0xC0 ≤ b

/-- Whether the bytes of a text can be cut after so many of them. -/
def isBoundary (b : List UInt8) (n : Nat) : Bool :=
  match b[n]? with
  | none => n == b.length
  | some x => n == 0 || startsChar x

/-- The texts before and after so many bytes of a text, if there is a boundary. -/
def splitAt? (t : Text) (n : Nat) : Option (Text × Text) :=
  if isBoundary (bytes t) n then do
    let before ← ofBytes? ⟨((bytes t).take n).toArray⟩
    let after ← ofBytes? ⟨((bytes t).drop n).toArray⟩
    return (before, after)
  else none

/-- A text that was to be cut where it has no boundary. -/
structure SliceFault where
  text : Text
  place : Nat

/-- The texts before and after so many bytes of a text, which must be at a boundary. -/
def splitAt (t : Text) (n : Nat) : Except SliceFault (Text × Text) :=
  match splitAt? t n with
  | some parts => .ok parts
  | none => .error ⟨t, n⟩

/-- How many bytes there are before the first character that satisfies a test. -/
def findByte? (p : Char → Bool) : Text → Option Nat
  | [] => none
  | c :: r => if p c then some 0 else (findByte? p r).map (c.utf8Size + ·)

end Concordance.Text

import Concordance.Text.Basic

/-!
# Hexadecimal numbers

Digits beyond nine are letters of either case.
-/

namespace Concordance.Text

/-- The value of a hexadecimal digit. -/
def hexDigit? (c : Char) : Option Nat :=
  if '0' ≤ c ∧ c ≤ '9' then some (c.toNat - '0'.toNat)
  else if 'a' ≤ c ∧ c ≤ 'f' then some (c.toNat - 'a'.toNat + 10)
  else if 'A' ≤ c ∧ c ≤ 'F' then some (c.toNat - 'A'.toNat + 10)
  else none

/-- The number that hexadecimal digits spell. -/
def ofHexDigits? (t : Text) : Option Nat :=
  if t.isEmpty then none
  else t.foldl (fun n c => do return (← n) * 16 + (← hexDigit? c)) (some 0)

end Concordance.Text

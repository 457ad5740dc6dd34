import Concordance.Text.Basic

/-!
# Decimal numbers

Writing a number takes the fewest digits; reading one takes any digits, so leading zeros are
allowed, after an optional plus sign.

Model of how `parse_index`, `parse_registry` and `page_doc_id` read a number, without its bound, and
`write_index` writes one.

* `ofDecimal?_toDecimal`: what is written reads back.
-/

namespace Concordance.Text

/-- The decimal digits of a number, without leading zeros. -/
def toDecimal (n : Nat) : Text := Nat.toDigits 10 n

/-- Whether a text is one or more decimal digits. -/
def isDigits (t : Text) : Bool := !t.isEmpty && t.all Char.isDigit

/-- The number that decimal digits spell. -/
def ofDigits? (t : Text) : Option Nat := if isDigits t then some (Nat.ofDigitChars 10 t 0) else none

/-- The number that an optional plus sign and decimal digits spell. -/
def ofDecimal? : Text → Option Nat
  | '+' :: t => ofDigits? t
  | t => ofDigits? t

theorem isDigits_toDecimal (n : Nat) : isDigits (toDecimal n) = true := by
  simp only [isDigits, toDecimal, Bool.and_eq_true, Bool.not_eq_true', List.isEmpty_eq_false_iff,
    List.all_eq_true]
  exact ⟨Nat.toDigits_ne_nil, fun c hc => Nat.isDigit_of_mem_toDigits (by decide) (by decide) hc⟩

theorem ofDigits?_toDecimal (n : Nat) : ofDigits? (toDecimal n) = some n := by
  rw [ofDigits?, if_pos (isDigits_toDecimal n), toDecimal, Nat.ofDigitChars_ten_toDigits]

theorem ofDecimal?_of_isDigits {t : Text} (h : isDigits t = true) : ofDecimal? t = ofDigits? t := by
  unfold ofDecimal?
  split
  · simp [isDigits] at h
  · rfl

/-- What is written reads back. -/
theorem ofDecimal?_toDecimal (n : Nat) : ofDecimal? (toDecimal n) = some n := by
  rw [ofDecimal?_of_isDigits (isDigits_toDecimal n), ofDigits?_toDecimal]

end Concordance.Text

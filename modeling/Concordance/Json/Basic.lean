import Concordance.Text.Decimal
import Concordance.Text.Hexadecimal

/-!
# JSON values

A JSON value keeps its numbers, strings and keys as they are spelled, because what a spelling means
depends on what is asked for: a number may have to be a document number, and a string that nobody
asks for need not denote a text. `escape` spells a text and `unescape?` reads a spelling.

Model of the strings and numbers of the JSON that `print_hits` writes and that values are read from.

* `unescape?_escape`: every text has a spelling that reads back.
-/

namespace Concordance.Json

open Text (hexDigit?)

/-- A JSON value, its leaves as they are spelled. -/
inductive Value where
  | null
  | bool (b : Bool)
  | num (spelled : Text)
  | str (spelled : Text)
  | arr (items : List Value)
  | obj (members : List (Text × Value))
  deriving Repr

instance : Inhabited Value := ⟨.null⟩

/-! ## Spelling texts -/

/-- The number that four hexadecimal digits spell. -/
def hexCode? (a b c d : Char) : Option Nat := do
  let a ← hexDigit? a
  let b ← hexDigit? b
  let c ← hexDigit? c
  let d ← hexDigit? d
  return ((a * 16 + b) * 16 + c) * 16 + d

/-- The spelling of a character: quotes, backslashes and control characters are escaped. -/
def escapeChar (c : Char) : Text :=
  if c = '"' then ['\\', '"']
  else if c = '\\' then ['\\', '\\']
  else if c = '\x08' then ['\\', 'b']
  else if c = '\x0c' then ['\\', 'f']
  else if c = '\n' then ['\\', 'n']
  else if c = '\r' then ['\\', 'r']
  else if c = '\t' then ['\\', 't']
  else if c.toNat < 0x20 then
    ['\\', 'u', '0', '0', Nat.digitChar (c.toNat / 16), Nat.digitChar (c.toNat % 16)]
  else [c]

/-- The spelling of a text. -/
def escape (t : Text) : Text := t.flatMap escapeChar

/-- The character that a letter after a backslash stands for. -/
def escaped? (c : Char) : Option Char :=
  if c = '"' ∨ c = '\\' ∨ c = '/' then some c
  else if c = 'b' then some '\x08'
  else if c = 'f' then some '\x0c'
  else if c = 'n' then some '\n'
  else if c = 'r' then some '\r'
  else if c = 't' then some '\t'
  else none

/-- Whether a code is the first half of a character beyond the first 2^16. -/
def isHighHalf (n : Nat) : Bool := 0xD800 ≤ n && n < 0xDC00

/-- Whether a code is the second half of a character beyond the first 2^16. -/
def isLowHalf (n : Nat) : Bool := 0xDC00 ≤ n && n < 0xE000

/-- The character of two halves. -/
def ofHalves (hi lo : Nat) : Char := Char.ofNat (0x10000 + (hi - 0xD800) * 0x400 + (lo - 0xDC00))

/-- The text that a spelling denotes; none if half a character stands alone. -/
def unescape? : Text → Option Text
  | [] => some []
  | '\\' :: 'u' :: a :: b :: c :: d :: '\\' :: 'u' :: a' :: b' :: c' :: d' :: r => do
    let n ← hexCode? a b c d
    if isHighHalf n then
      let m ← hexCode? a' b' c' d'
      if isLowHalf m then return ofHalves n m :: (← unescape? r) else none
    else if isLowHalf n then none
    else return Char.ofNat n :: (← unescape? ('\\' :: 'u' :: a' :: b' :: c' :: d' :: r))
  | '\\' :: 'u' :: a :: b :: c :: d :: r => do
    let n ← hexCode? a b c d
    if isHighHalf n || isLowHalf n then none else return Char.ofNat n :: (← unescape? r)
  | '\\' :: c :: r => do return (← escaped? c) :: (← unescape? r)
  | c :: r => do return c :: (← unescape? r)

theorem hexCode?_control : ∀ n : Fin 32,
    hexCode? '0' '0' (Nat.digitChar (n / 16)) (Nat.digitChar (n % 16)) = some n.val := by
  decide

/-- A code that is no half of a character stands for its character, whatever comes after it. -/
theorem unescape?_code {a b c d : Char} {n : Nat} (h : hexCode? a b c d = some n)
    (hi : isHighHalf n = false) (lo : isLowHalf n = false) (r : Text) :
    unescape? ('\\' :: 'u' :: a :: b :: c :: d :: r) = (unescape? r).map (Char.ofNat n :: ·) := by
  conv => lhs; unfold unescape?
  split
  · simp_all
  · rename_i heq
    simp only [List.cons.injEq, true_and] at heq
    obtain ⟨rfl, rfl, rfl, rfl, rfl⟩ := heq
    simp only [h, hi, lo, Option.bind_eq_bind, Option.bind_some, Bool.false_eq_true, ↓reduceIte]
    cases unescape? _ <;> rfl
  · rename_i heq
    simp only [List.cons.injEq, true_and] at heq
    obtain ⟨rfl, rfl, rfl, rfl, rfl⟩ := heq
    simp only [h, hi, lo, Option.bind_eq_bind, Option.bind_some, Bool.or_self, Bool.false_eq_true,
      ↓reduceIte]
    cases unescape? _ <;> rfl
  · rename_i hno heq
    simp only [List.cons.injEq, true_and] at heq
    exact absurd heq.2.symm (hno _ _ _ _ _ heq.1.symm)
  · rename_i hno heq
    simp only [List.cons.injEq] at heq
    exact absurd heq.2.symm (hno _ _ heq.1.symm)

theorem unescape?_cons {c : Char} (h : c ≠ '\\') (r : Text) :
    unescape? (c :: r) = (unescape? r).map (c :: ·) := by
  rw [unescape?]
  · cases unescape? r <;> rfl
  all_goals simp_all

/-- How a character is spelled: by a letter after a backslash, by its code, or by itself. -/
theorem escapeChar_cases (c : Char) :
    (∃ x, escapeChar c = ['\\', x] ∧ x ≠ 'u' ∧ escaped? x = some c) ∨
      (∃ a b, escapeChar c = ['\\', 'u', '0', '0', a, b] ∧ hexCode? '0' '0' a b = some c.toNat ∧
        c.toNat < 0x20) ∨
      escapeChar c = [c] ∧ c ≠ '"' ∧ c ≠ '\\' ∧ ¬ c.toNat < 0x20 := by
  by_cases hletter : c ∈ ['"', '\\', '\x08', '\x0c', '\n', '\r', '\t']
  · simp only [List.mem_cons, List.not_mem_nil, or_false] at hletter
    rcases hletter with rfl | rfl | rfl | rfl | rfl | rfl | rfl <;>
      exact .inl ⟨_, rfl, by decide, rfl⟩
  · simp only [List.mem_cons, List.not_mem_nil, or_false, not_or] at hletter
    obtain ⟨hquote, hslash, hback, hfeed, hline, hreturn, htab⟩ := hletter
    rw [escapeChar, if_neg hquote, if_neg hslash, if_neg hback, if_neg hfeed, if_neg hline,
      if_neg hreturn, if_neg htab]
    split
    · rename_i hlow
      exact .inr (.inl ⟨_, _, rfl, hexCode?_control ⟨c.toNat, hlow⟩, hlow⟩)
    · rename_i hlow
      exact .inr (.inr ⟨rfl, hquote, hslash, hlow⟩)

theorem unescape?_escapeChar (c : Char) (r : Text) :
    unescape? (escapeChar c ++ r) = (unescape? r).map (c :: ·) := by
  rcases escapeChar_cases c with ⟨x, hc, hx, hletter⟩ | ⟨a, b, hc, hcode, hlow⟩ | ⟨hc, -, hslash, -⟩
  · rw [hc, List.cons_append, List.singleton_append, unescape?]
    · rw [hletter]
      cases unescape? r <;> rfl
    all_goals simp_all
  · have hi : isHighHalf c.toNat = false := by simp [isHighHalf]; omega
    have lo : isLowHalf c.toNat = false := by simp [isLowHalf]; omega
    rw [hc]
    simpa [Char.ofNat_toNat] using unescape?_code hcode hi lo r
  · rw [hc]
    exact unescape?_cons hslash r

/-- Every text has a spelling that reads back. -/
theorem unescape?_escape (t : Text) : unescape? (escape t) = some t := by
  induction t with
  | nil => rfl
  | cons c t ih =>
    rw [escape, List.flatMap_cons, unescape?_escapeChar, ← escape, ih]
    rfl

/-! ## Values of texts and numbers -/

/-- The value that spells a text. -/
def Value.ofText (t : Text) : Value := .str (escape t)

/-- The value that spells a number. -/
def Value.ofNat (n : Nat) : Value := .num (Text.toDecimal n)

end Concordance.Json

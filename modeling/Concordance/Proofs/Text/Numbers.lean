import Concordance.Document

/-!
# Which texts are numbers

What the readers of decimal numbers accept, said of the characters of a text, and which of the texts
that spell one number is the one that is written.

* **`ofDecimal?_eq_some_iff`**, **`DocId.ofText?_eq_some_iff`**: a number is read from digits with an
  optional plus sign before them, and from nothing else.
* **`isNumeral_iff`**: a number is written with the digits that have no needless zero.
* `append_toDecimal_inj`: a number that follows a mark can be read off the end of a text.
-/

namespace Concordance

namespace Text

variable {t : Text} {n : Nat}

/-! ## Reading -/

/-- A text spells a number: one or more digits, and perhaps a plus sign before them. -/
def SpellsNumber (t : Text) (n : Nat) : Prop :=
  ∃ digits : Text, (t = digits ∨ t = '+' :: digits) ∧ digits ≠ [] ∧
    (∀ c ∈ digits, c.isDigit = true) ∧ Nat.ofDigitChars 10 digits 0 = n

theorem isDigits_iff : isDigits t = true ↔ t ≠ [] ∧ ∀ c ∈ t, c.isDigit = true := by
  simp only [isDigits, Bool.and_eq_true, Bool.not_eq_true', List.isEmpty_eq_false_iff,
    List.all_eq_true]

theorem ofDigits?_eq_some_iff :
    ofDigits? t = some n ↔ t ≠ [] ∧ (∀ c ∈ t, c.isDigit = true) ∧ Nat.ofDigitChars 10 t 0 = n := by
  rw [ofDigits?, Option.ite_none_right_eq_some, isDigits_iff, Option.some.injEq, and_assoc]

/-- **A number is read** from exactly the texts that spell it. -/
theorem ofDecimal?_eq_some_iff : ofDecimal? t = some n ↔ SpellsNumber t n := by
  unfold ofDecimal?
  split
  case h_1 digits =>
    rw [ofDigits?_eq_some_iff]
    constructor
    · exact fun h => ⟨digits, .inr rfl, h⟩
    · rintro ⟨digits', h | h, hne, hdigit, hvalue⟩
      · exact absurd (hdigit '+' (h ▸ List.mem_cons_self)) (by decide)
      · cases h
        exact ⟨hne, hdigit, hvalue⟩
  case h_2 hplus =>
    rw [ofDigits?_eq_some_iff]
    constructor
    · exact fun h => ⟨t, .inl rfl, h⟩
    · rintro ⟨digits, rfl | rfl, h⟩
      · exact h
      · exact absurd rfl (hplus digits)

/-! ## Writing -/

/-- A text is the written form of a number: its digits without a sign and without a zero at the
start, unless it is the number zero. -/
def IsNumeral (t : Text) (n : Nat) : Prop :=
  t ≠ [] ∧ (∀ c ∈ t, c.isDigit = true) ∧ (t.head? = some '0' → t = ['0']) ∧
    Nat.ofDigitChars 10 t 0 = n

theorem digitChar_of_isDigit {c : Char} (h : c.isDigit = true) :
    c.toNat - '0'.toNat < 10 ∧ Nat.digitChar (c.toNat - '0'.toNat) = c := by
  have hrange : 48 ≤ c.toNat ∧ c.toNat ≤ 57 := Char.isDigit_iff_toNat.mp h
  have hzero : '0'.toNat = 48 := rfl
  have hlt : c.toNat - '0'.toNat < 10 := by omega
  refine ⟨hlt, Char.toNat_inj.mp ?_⟩
  rw [Nat.toNat_digitChar_of_lt_ten hlt]
  omega

/-- Digits after a number that is not zero are written after its digits. -/
theorem toDecimal_ofDigitChars (h : ∀ c ∈ t, c.isDigit = true) (hn : 0 < n) :
    toDecimal (Nat.ofDigitChars 10 t n) = toDecimal n ++ t := by
  induction t generalizing n with
  | nil => rw [Nat.ofDigitChars_nil, List.append_nil]
  | cons c t ih =>
    obtain ⟨hlt, hchar⟩ := digitChar_of_isDigit (h c List.mem_cons_self)
    have hnext : toDecimal (10 * n + (c.toNat - '0'.toNat)) = toDecimal n ++ [c] := by
      rw [toDecimal, ← Nat.toDigits_append_toDigits (by decide) hn hlt,
        Nat.toDigits_of_lt_base hlt, hchar, toDecimal]
    rw [Nat.ofDigitChars_cons, ih (fun d hd => h d (List.mem_cons_of_mem c hd)) (by omega), hnext,
      List.append_assoc, List.singleton_append]

/-- Only zero is written with a zero at the start. -/
theorem head?_toDecimal (n : Nat) : (toDecimal n).head? = some '0' → n = 0 := by
  induction n using Nat.strongRecOn with
  | ind n ih =>
    intro h
    by_cases hn : n < 10
    · rw [toDecimal, Nat.toDigits_of_lt_base hn, List.head?_cons, Option.some.injEq,
        Nat.digitChar_eq_zero] at h
      exact h
    · have hhead := List.head?_eq_some_head (Nat.toDigits_ne_nil (n := n / 10) (b := 10))
      rw [toDecimal, Nat.toDigits_of_base_le (by decide) (by omega), List.head?_append, hhead,
        Option.some_or] at h
      have := ih (n / 10) (by omega) (hhead.trans h)
      omega

/-- **The written form of a number** is its digits without a needless zero. -/
theorem isNumeral_iff : IsNumeral t n ↔ t = toDecimal n := by
  constructor
  · rintro ⟨hne, hdigit, hzero, rfl⟩
    cases t with
    | nil => exact absurd rfl hne
    | cons c t =>
      obtain ⟨hlt, hchar⟩ := digitChar_of_isDigit (hdigit c List.mem_cons_self)
      by_cases hc : c = '0'
      · rw [hzero (by rw [hc, List.head?_cons])]
        rfl
      · have hpos : 0 < c.toNat - '0'.toNat := by
          refine Nat.pos_of_ne_zero fun h => hc ?_
          rw [← hchar, h, Nat.digitChar_eq_zero]
        rw [Nat.ofDigitChars_cons, Nat.mul_zero, Nat.zero_add,
          toDecimal_ofDigitChars (fun d hd => hdigit d (List.mem_cons_of_mem c hd)) hpos, toDecimal,
          Nat.toDigits_of_lt_base hlt, hchar, List.singleton_append]
  · rintro rfl
    obtain ⟨hne, hdigit⟩ := isDigits_iff.mp (isDigits_toDecimal n)
    refine ⟨hne, hdigit, fun h => ?_, Nat.ofDigitChars_ten_toDigits⟩
    rw [head?_toDecimal n h]
    rfl

theorem toDecimal_inj {m n : Nat} : toDecimal m = toDecimal n ↔ m = n := by
  refine ⟨fun h => ?_, congrArg toDecimal⟩
  rw [← Option.some.injEq, ← ofDecimal?_toDecimal m, h, ofDecimal?_toDecimal]

/-- The digits at the end of a text are all of those that follow a mark which does not end in a
digit. -/
theorem takeWhile_reverse_append_toDecimal (a : Text) {mark : Text}
    (hmark : mark.getLast?.any (!·.isDigit) = true) (n : Nat) :
    (a ++ mark ++ toDecimal n).reverse.takeWhile Char.isDigit = (toDecimal n).reverse := by
  obtain ⟨c, hc, hdigit⟩ := (Option.any_eq_true _ _).mp hmark
  obtain ⟨init, rfl⟩ := List.getLast?_eq_some_iff.mp hc
  have hdigits : ∀ d ∈ (toDecimal n).reverse, d.isDigit = true := fun d hd =>
    (isDigits_iff.mp (isDigits_toDecimal n)).2 d (List.mem_reverse.mp hd)
  rw [List.reverse_append, List.takeWhile_append_of_pos hdigits, ← List.append_assoc,
    List.reverse_append, List.reverse_singleton, List.singleton_append,
    List.takeWhile_cons_of_neg (by simpa using hdigit), List.append_nil]

/-- A number after a mark can be read off the end of a text. -/
theorem append_toDecimal_inj (mark : Text) (hmark : mark.getLast?.any (!·.isDigit) = true)
    {a b : Text} {m n : Nat} (h : a ++ mark ++ toDecimal m = b ++ mark ++ toDecimal n) :
    a = b ∧ m = n := by
  have hdigits : (toDecimal m).reverse = (toDecimal n).reverse := by
    rw [← takeWhile_reverse_append_toDecimal a hmark m, h,
      takeWhile_reverse_append_toDecimal b hmark n]
  obtain rfl := toDecimal_inj.mp (List.reverse_inj.mp hdigits)
  exact ⟨List.append_cancel_right (List.append_cancel_right h), rfl⟩

end Text

/-! ## Document numbers -/

namespace DocId

variable {t : Text} {n : Nat} {d : DocId}

theorem ofNat?_eq_some_iff : ofNat? n = some d ↔ d.toNat = n := by
  constructor
  · intro h
    unfold ofNat? at h
    split at h
    · cases h
      exact UInt64.toNat_ofNatLT ..
    · cases h
  · rintro rfl
    exact ofNat?_toNat d

/-- **A document is read** from exactly the texts that spell its number. -/
theorem ofText?_eq_some_iff : ofText? t = some d ↔ Text.SpellsNumber t d.toNat := by
  simp only [ofText?, Option.bind_eq_some_iff, ofNat?_eq_some_iff, Text.ofDecimal?_eq_some_iff,
    exists_eq_right']

/-- A text is a document number if it spells a number below 2^64. -/
def IsSpelled (t : Text) : Prop := ∃ n < UInt64.size, Text.SpellsNumber t n

theorem isSpelled_iff : IsSpelled t ↔ ∃ d, ofText? t = some d := by
  simp only [ofText?_eq_some_iff]
  constructor
  · rintro ⟨n, hn, h⟩
    exact ⟨UInt64.ofNatLT n hn, (UInt64.toNat_ofNatLT ..).symm ▸ h⟩
  · rintro ⟨d, h⟩
    exact ⟨d.toNat, d.toNat_lt_size, h⟩

theorem ofText?_eq_none_iff : ofText? t = none ↔ ¬ IsSpelled t := by
  rw [isSpelled_iff, Option.eq_none_iff_forall_ne_some, not_exists]

/-- Digits are a document number unless they are too many. -/
theorem isSpelled_iff_of_isDigits (h : Text.isDigits t = true) :
    IsSpelled t ↔ Nat.ofDigitChars 10 t 0 < UInt64.size := by
  obtain ⟨hne, hdigit⟩ := Text.isDigits_iff.mp h
  constructor
  · rintro ⟨n, hn, digits, rfl | rfl, -, -, rfl⟩
    · exact hn
    · exact absurd (hdigit '+' List.mem_cons_self) (by decide)
  · exact fun hlt => ⟨_, hlt, t, .inl rfl, hne, hdigit, rfl⟩

end DocId

end Concordance

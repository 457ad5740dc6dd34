import Concordance.Json.Basic

/-!
# Reading JSON

Reading is strict: one value with white space around it and nothing else. Numbers have no leading
zeros, strings no bare control characters, and nothing may follow the last item of a list or object
but its end. Each reader returns the text that it leaves with the fact that it is shorter than what
it was given.

Out of scope: the text and the place of an error, and the value of a number that is no document
number.
-/

namespace Concordance.Json

/-- What a reader makes of the start of a text, and the text that it leaves. -/
abbrev Shorter (α : Type) (t : Text) := { r : α × Text // r.2.length < t.length }

/-- Whether a character may stand between the parts of a value. -/
def isGap (c : Char) : Bool := c = ' ' || c = '\t' || c = '\n' || c = '\r'

/-- The text after the white space at its start. -/
def skip (t : Text) : Text := t.dropWhile isGap

theorem length_dropWhile_le (p : Char → Bool) (t : Text) : (t.dropWhile p).length ≤ t.length :=
  (List.dropWhile_sublist p).length_le

theorem lt_of_skip {t r : Text} {c : Char} (h : skip t = c :: r) : r.length < t.length := by
  have := length_dropWhile_le isGap t
  rw [skip] at h
  rw [h, List.length_cons] at this
  omega

theorem length_dropLead {lead t r : Text} (h : Text.dropLead lead t = some r) :
    r.length ≤ t.length := by
  induction lead generalizing t with
  | nil => simp_all [Text.dropLead]
  | cons a lead ih =>
    cases t with
    | nil => simp [Text.dropLead] at h
    | cons c t =>
      simp only [Text.dropLead] at h
      split at h
      · exact Nat.le_succ_of_le (ih h)
      · simp at h

/-! ## Leaves -/

/-- The spelling of a string up to its closing quote. -/
def readString : (t : Text) → Option (Shorter Text t)
  | [] => none
  | '"' :: r => some ⟨([], r), by simp⟩
  | '\\' :: 'u' :: a :: b :: c :: d :: r =>
    if (hexCode? a b c d).isSome then
      (readString r).map fun ⟨p, h⟩ =>
        ⟨('\\' :: 'u' :: a :: b :: c :: d :: p.1, p.2), by simp only [List.length_cons]; omega⟩
    else none
  | '\\' :: c :: r =>
    if (escaped? c).isSome then
      (readString r).map fun ⟨p, h⟩ =>
        ⟨('\\' :: c :: p.1, p.2), by simp only [List.length_cons]; omega⟩
    else none
  | c :: r =>
    if c = '\\' ∨ c.toNat < 0x20 then none
    else (readString r).map fun ⟨p, h⟩ => ⟨(c :: p.1, p.2), by simp only [List.length_cons]; omega⟩

/-- Whether a text is decimal digits, at least one, without needless leading zeros. -/
def isPlainNumber : Text → Bool
  | '0' :: r => r.isEmpty
  | t => Text.isDigits t

/-- Whether a text is a decimal exponent without its letter. -/
def isExponent : Text → Bool
  | '+' :: r => Text.isDigits r
  | '-' :: r => Text.isDigits r
  | t => Text.isDigits t

/-- Whether a text spells a number without a sign. -/
def isUnsigned (t : Text) : Bool :=
  let (m, exponent) := match Text.cutAt (fun c => c = 'e' || c = 'E') t with
    | some (m, e) => (m, isExponent e)
    | none => (t, true)
  exponent && match Text.cutAt (· = '.') m with
    | some (whole, part) => isPlainNumber whole && Text.isDigits part
    | none => isPlainNumber m

/-- Whether a text spells a number. -/
def isNumber : Text → Bool
  | '-' :: t => isUnsigned t
  | t => isUnsigned t

/-- Whether a character occurs in numbers. -/
def isNumberChar (c : Char) : Bool :=
  c.isDigit || c = '-' || c = '+' || c = '.' || c = 'e' || c = 'E'

/-! ## Values -/

mutual

/-- Reads a value. -/
def readValue (t : Text) : Option (Shorter Value t) :=
  match h : skip t with
  | [] => none
  | c :: r =>
    have hr : r.length < t.length := lt_of_skip h
    if c = '"' then
      (readString r).map fun ⟨p, h⟩ => ⟨(.str p.1, p.2), Nat.lt_trans h hr⟩
    else if c = '[' then
      match h' : skip r with
      | ']' :: r' => some ⟨(.arr [], r'), Nat.lt_trans (lt_of_skip h') hr⟩
      | _ => (readItems r).map fun ⟨p, h⟩ => ⟨(.arr p.1, p.2), Nat.lt_trans h hr⟩
    else if c = '\x7b' then
      match h' : skip r with
      | '\x7d' :: r' => some ⟨(.obj [], r'), Nat.lt_trans (lt_of_skip h') hr⟩
      | _ => (readMembers r).map fun ⟨p, h⟩ => ⟨(.obj p.1, p.2), Nat.lt_trans h hr⟩
    else if c = 't' then
      match h' : Text.dropLead ['r', 'u', 'e'] r with
      | some r' => some ⟨(.bool true, r'), Nat.lt_of_le_of_lt (length_dropLead h') hr⟩
      | none => none
    else if c = 'f' then
      match h' : Text.dropLead ['a', 'l', 's', 'e'] r with
      | some r' => some ⟨(.bool false, r'), Nat.lt_of_le_of_lt (length_dropLead h') hr⟩
      | none => none
    else if c = 'n' then
      match h' : Text.dropLead ['u', 'l', 'l'] r with
      | some r' => some ⟨(.null, r'), Nat.lt_of_le_of_lt (length_dropLead h') hr⟩
      | none => none
    else
      let spelled := c :: r.takeWhile isNumberChar
      if isNumber spelled then
        some ⟨(.num spelled, r.dropWhile isNumberChar),
          Nat.lt_of_le_of_lt (length_dropWhile_le _ _) hr⟩
      else none
termination_by t.length * 2

/-- Reads the items of a list, at least one, up to its end. -/
def readItems (t : Text) : Option (Shorter (List Value) t) :=
  match readValue t with
  | none => none
  | some ⟨(v, r), h⟩ =>
    match h' : skip r with
    | ',' :: r' =>
      have hr : r'.length < t.length := Nat.lt_trans (lt_of_skip h') h
      (readItems r').map fun ⟨p, h⟩ => ⟨(v :: p.1, p.2), Nat.lt_trans h hr⟩
    | ']' :: r' => some ⟨([v], r'), Nat.lt_trans (lt_of_skip h') h⟩
    | _ => none
termination_by t.length * 2 + 1

/-- Reads the members of an object, at least one, up to its end. -/
def readMembers (t : Text) : Option (Shorter (List (Text × Value)) t) :=
  match h : skip t with
  | '"' :: r =>
    match readString r with
    | none => none
    | some ⟨(key, r₁), h₁⟩ =>
      match h₂ : skip r₁ with
      | ':' :: r₂ =>
        have hr : r₂.length < t.length :=
          Nat.lt_trans (lt_of_skip h₂) (Nat.lt_trans h₁ (lt_of_skip h))
        match readValue r₂ with
        | none => none
        | some ⟨(v, r₃), h₃⟩ =>
          match h₄ : skip r₃ with
          | ',' :: r₄ =>
            have hr : r₄.length < t.length :=
              Nat.lt_trans (lt_of_skip h₄) (Nat.lt_trans h₃ hr)
            (readMembers r₄).map fun ⟨p, h⟩ => ⟨((key, v) :: p.1, p.2), Nat.lt_trans h hr⟩
          | '\x7d' :: r₄ =>
            some ⟨([(key, v)], r₄), Nat.lt_trans (lt_of_skip h₄) (Nat.lt_trans h₃ hr)⟩
          | _ => none
      | _ => none
  | _ => none
termination_by t.length * 2 + 1

end

/-- The value that a text spells. -/
def Value.read? (t : Text) : Option Value :=
  match readValue t with
  | some ⟨(v, r), _⟩ => if (skip r).isEmpty then some v else none
  | none => none

end Concordance.Json

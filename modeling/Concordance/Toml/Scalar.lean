import Concordance.Text.Decimal
import Concordance.Text.Hexadecimal

/-!
# Numbers of TOML

Which texts are numbers. Digits may be grouped by underscores between them. A whole number fits in
64 bits with a sign and has no needless leading zeros; it may be given in base 16, 8 or 2. A
floating-point number may not be so large that it would be positive infinity, but infinity has a
name. Of an exponent, digits count only up to a limit that no finite number of usual length needs.

Out of scope: the value of a number, since no setting is one.
-/

namespace Concordance.Toml

/-- Whether a text is digits with single underscores between them. -/
def isGrouped (digit : Char → Bool) (t : Text) : Bool :=
  (Text.pieces (· == '_') t).all fun p => !p.isEmpty && p.all digit

/-- The text without the underscores between its digits. -/
def ungrouped (t : Text) : Text := t.filter (· ≠ '_')

/-- A leading sign, if there is one, and the rest. -/
def splitSign : Text → Option Char × Text
  | '+' :: r => (some '+', r)
  | '-' :: r => (some '-', r)
  | r => (none, r)

/-- Whether a text is grouped decimal digits without needless leading zeros. -/
def isDecimal (t : Text) : Bool := isGrouped Char.isDigit t && (t.length = 1 || t.head? ≠ some '0')

/-- The number that digits of any base up to sixteen spell. -/
def ofBase (base : Nat) (t : Text) : Nat :=
  t.foldl (fun n c => base * n + (Text.hexDigit? c).getD 0) 0

/-- The least number that is too large for 64 bits with a sign: 2^63. -/
def limit : Nat := UInt64.size / 2

/-- Whether a text is a positive whole number in a base other than ten. -/
def isBased (base : Nat) (t : Text) : Bool :=
  isGrouped (fun c => (Text.hexDigit? c).any (· < base)) t && ofBase base (ungrouped t) < limit

/-- Whether a text is a whole number. -/
def isWhole (t : Text) : Bool :=
  match t with
  | '0' :: 'x' :: r => isBased 16 r
  | '0' :: 'o' :: r => isBased 8 r
  | '0' :: 'b' :: r => isBased 2 r
  | t =>
    let (sign, r) := splitSign t
    isDecimal r && ofBase 10 (ungrouped r) < limit + (if sign = some '-' then 1 else 0)

/-! ## Floating-point numbers -/

/-- The least number that is rounded to infinity: half a unit above the greatest finite one. -/
def overflow : Nat := Nat.pow 2 1024 - Nat.pow 2 970

/-- Whether the number with some digits, the last of which counts so many powers of ten, is rounded
to infinity. The numbers of digits decide unless they are near the limit. -/
def isHuge (digits : Text) (scale : Int) : Bool :=
  let d := digits.dropWhile (· = '0')
  let magnitude := scale + d.length
  if d.isEmpty || magnitude < 309 then false
  else if 309 < magnitude then true
  else if 0 ≤ scale then overflow ≤ ofBase 10 d * Nat.pow 10 scale.toNat
  else overflow * Nat.pow 10 (-scale).toNat ≤ ofBase 10 d

/-- The least exponent of which no further digits are read. -/
def exponentLimit : Nat := 0x10000

/-- The number that the first digits spell, as many as it takes to reach the limit of exponents. -/
def exponentOf (digits : Text) : Nat :=
  digits.foldl (fun n c => if n < exponentLimit then 10 * n + (Text.hexDigit? c).getD 0 else n) 0

/-- The exponent that a text is. -/
def exponent? (t : Text) : Option Int :=
  let (sign, r) := splitSign t
  if isGrouped Char.isDigit r then
    let n := Int.ofNat (exponentOf (ungrouped r))
    some (if sign = some '-' then -n else n)
  else none

/-- Whether a text is a floating-point number without a sign, which is not to be huge if it is
positive. -/
def isUnsignedFloat (positive : Bool) (t : Text) : Bool :=
  let (mantissa, exponent) := match Text.cutAt (fun c => c = 'e' || c = 'E') t with
    | some (m, e) => (m, exponent? e)
    | none => (t, some 0)
  match exponent, Text.cutAt (· = '.') mantissa with
  | none, _ => false
  | some e, some (whole, part) =>
    let part' := ungrouped part
    isDecimal whole && isGrouped Char.isDigit part &&
      !(positive && isHuge (ungrouped whole ++ part') (e - part'.length))
  | some e, none =>
    mantissa ≠ t && isDecimal mantissa && !(positive && isHuge (ungrouped mantissa) e)

/-- Whether a text is a floating-point number. -/
def isFloat (t : Text) : Bool :=
  let (sign, r) := splitSign t
  r = "inf".toList || r = "nan".toList || isUnsignedFloat (sign ≠ some '-') r

end Concordance.Toml

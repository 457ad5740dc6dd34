import Concordance.Text.Decimal

/-!
# Dates and times of TOML

A moment is a date of the calendar, a time of day, or both with the letter T or a blank between
them, and then possibly with the distance of the local time from universal time. A time has at most
nine decimal places; further ones are cut off.

* `Moment.ofText?` reads a moment.
* `Moment.toText` writes it in one form: a capital T between date and time, a capital Z for
  universal time, no zeros at the end of the decimal places, and a plus sign before no distance.
-/

namespace Concordance.Toml

/-! ## Numbers of fixed width -/

/-- The number that a text of so many digits spells. -/
def fixed? (digits : Nat) (t : Text) : Option Nat :=
  if t.length = digits then Text.ofDigits? t else none

/-- The number that a text of two digits spells, if it is between two bounds. -/
def twoDigits? (lo hi : Nat) (t : Text) : Option Nat :=
  (fixed? 2 t).filter fun n => lo ≤ n && n ≤ hi

/-- A number with so many digits at least. -/
def padded (digits n : Nat) : Text :=
  let t := Text.toDecimal n
  List.replicate (digits - t.length) '0' ++ t

/-! ## Dates -/

/-- A date. -/
structure Date where
  year : Nat
  month : Nat
  day : Nat
  deriving DecidableEq, Repr

namespace Date

/-- The number of days of a month. -/
def daysIn (year month : Nat) : Nat :=
  if month = 2 then
    if year % 4 = 0 && (year % 100 ≠ 0 || year % 400 = 0) then 29 else 28
  else if month = 4 || month = 6 || month = 9 || month = 11 then 30
  else 31

/-- The date that a text spells. -/
def ofText? (t : Text) : Option Date :=
  match Text.pieces (· == '-') t with
  | [y, m, d] => do
    let year ← fixed? 4 y
    let month ← twoDigits? 1 12 m
    return ⟨year, month, ← twoDigits? 1 (daysIn year month) d⟩
  | _ => none

/-- A date in digits. -/
def toText (d : Date) : Text :=
  Text.join ['-'] [padded 4 d.year, padded 2 d.month, padded 2 d.day]

end Date

/-! ## Times of day -/

/-- A time of day. The seconds may be those of a leap second, and have decimal places. -/
structure Time where
  hour : Nat
  minute : Nat
  second : Nat
  places : Text
  deriving DecidableEq, Repr

namespace Time

/-- The most decimal places of seconds. -/
def maxPlaces : Nat := 9

/-- Decimal places without those that are cut off, and without zeros at the end. -/
def trimPlaces (t : Text) : Text := ((t.take maxPlaces).reverse.dropWhile (· = '0')).reverse

/-- The seconds that a text spells, with their decimal places. -/
def secondOfText? (t : Text) : Option (Nat × Text) :=
  match Text.cutAt (· = '.') t with
  | some (s, places) => do
    if Text.isDigits places then return (← twoDigits? 0 60 s, trimPlaces places) else none
  | none => (twoDigits? 0 60 t).map (·, [])

/-- The time that a text spells. -/
def ofText? (t : Text) : Option Time :=
  match Text.pieces (· == ':') t with
  | [h, m, s] => do
    let hour ← twoDigits? 0 23 h
    let minute ← twoDigits? 0 59 m
    let (second, places) ← secondOfText? s
    return ⟨hour, minute, second, places⟩
  | _ => none

/-- A time in digits. -/
def toText (t : Time) : Text :=
  Text.join [':'] [padded 2 t.hour, padded 2 t.minute, padded 2 t.second] ++
    if t.places.isEmpty then [] else '.' :: t.places

end Time

/-! ## Distances from universal time -/

/-- How far a local time is from universal time. -/
inductive Zone where
  | universal
  /-- So many minutes ahead of universal time. -/
  | shifted (minutes : Int)
  deriving DecidableEq, Repr

namespace Zone

/-- The minutes that a text of hours and minutes spells. -/
def minutesOfText? (t : Text) : Option Nat :=
  match Text.pieces (· == ':') t with
  | [h, m] => do return (← twoDigits? 0 23 h) * 60 + (← twoDigits? 0 59 m)
  | _ => none

/-- The distance that a text spells. -/
def ofText? : Text → Option Zone
  | ['Z'] | ['z'] => some .universal
  | '+' :: r => (minutesOfText? r).map fun n => .shifted n
  | '-' :: r => (minutesOfText? r).map fun n => .shifted (-n)
  | _ => none

/-- A distance in hours and minutes. -/
def toText : Zone → Text
  | .universal => ['Z']
  | .shifted m =>
    (if m < 0 then '-' else '+') ::
      Text.join [':'] [padded 2 (m.natAbs / 60), padded 2 (m.natAbs % 60)]

end Zone

/-! ## Moments -/

/-- A date, a time of day, or both. -/
inductive Moment where
  | date (d : Date)
  | time (t : Time)
  | both (d : Date) (t : Time) (zone : Option Zone)
  deriving DecidableEq, Repr

namespace Moment

/-- The time of day that a text spells, with its distance from universal time if it has one. -/
def zonedOfText? (t : Text) : Option (Time × Option Zone) := do
  let figures := t.takeWhile fun c => c.isDigit || c = ':' || c = '.'
  let rest := t.drop figures.length
  let clock ← Time.ofText? figures
  if rest.isEmpty then return (clock, none) else return (clock, some (← Zone.ofText? rest))

/-- The moment that a text without blanks spells. -/
def ofText? (t : Text) : Option Moment :=
  (Date.ofText? t).map .date <|> (Time.ofText? t).map .time <|> do
    let (d, r) ← Text.cutAt (fun c => c = 'T' || c = 't') t
    let (clock, zone) ← zonedOfText? r
    return .both (← Date.ofText? d) clock zone

/-- A moment in its one form. -/
def toText : Moment → Text
  | .date d => d.toText
  | .time t => t.toText
  | .both d t zone => d.toText ++ 'T' :: t.toText ++ (zone.map Zone.toText).getD []

end Moment

end Concordance.Toml

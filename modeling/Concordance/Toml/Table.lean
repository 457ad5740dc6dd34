import Concordance.Settings.Value
import Concordance.Text.Basic

/-!
# Tables of TOML

The tables that a TOML document builds, with what is needed to tell that a table is not defined
twice. A table may be opened by a header, be there because a header names something in it, or
because a dotted key does. Only a table of the last kind takes further dotted keys, and only one of
the second kind may still be opened by a header. Nothing is added to a value.

* `add`: a pair in a table.
* `within`: a change to the table that a header names.
-/

namespace Concordance.Toml

open Settings (Value)

/-- Why a table is there. -/
inductive Origin where
  /-- A header opens it. -/
  | opened
  /-- A header names something in it. -/
  | implied
  /-- A dotted key names something in it. -/
  | dotted
  deriving DecidableEq, Repr

/-- What is under a key: a value, a table, or a list of tables, the last first. -/
inductive Item where
  | value (v : Value)
  | table (origin : Origin) (entries : List (Text × Item))
  | tables (elements : List (List (Text × Item)))

/-- The entries of a table. -/
abbrev Entries := List (Text × Item)

mutual

/-- The value of an item. -/
def Item.toValue : Item → Value
  | .value v => v
  | .table _ es => .table (valuesOf es)
  | .tables els => .list (elementsOf els)

/-- The values of entries. -/
def valuesOf : List (Text × Item) → List (Text × Value)
  | [] => []
  | e :: r => valueOf e :: valuesOf r

/-- The value of an entry. -/
def valueOf : Text × Item → Text × Value
  | (k, i) => (k, i.toValue)

/-- The values of the elements of a list of tables. -/
def elementsOf : List (List (Text × Item)) → List Value
  | [] => []
  | es :: r => elementsOf r ++ [.table (valuesOf es)]

end

/-- A table with a value under a dotted key. -/
def add (v : Value) : List Text → Entries → Option Entries
  | [], _ => none
  | [k], es =>
    match AscMap.find k es with
    | none => some (AscMap.insertInto k (.value v) es)
    | some _ => none
  | k :: ks, es =>
    match AscMap.find k es with
    | none => do return AscMap.insertInto k (.table .dotted (← add v ks [])) es
    | some (.table .dotted sub) => do
      return AscMap.insertInto k (.table .dotted (← add v ks sub)) es
    | some (.table .implied sub) =>
      if ks.length = 1 then none
      else do return AscMap.insertInto k (.table .implied (← add v ks sub)) es
    | some (.tables (last :: els)) =>
      if ks.length = 1 then none
      else do return AscMap.insertInto k (.tables ((← add v ks last) :: els)) es
    | some _ => none

/-- A table with a change to the table at the end of a path, where a list of tables stands for its
last. -/
def within (change : Entries → Option Entries) : List Text → Entries → Option Entries
  | [], es => change es
  | k :: ks, es =>
    match AscMap.find k es with
    | none => do return AscMap.insertInto k (.table .implied (← within change ks [])) es
    | some (.table o sub) => do return AscMap.insertInto k (.table o (← within change ks sub)) es
    | some (.tables (last :: els)) => do
      return AscMap.insertInto k (.tables ((← within change ks last) :: els)) es
    | some _ => none

/-- Opens a table. -/
def openTable (k : Text) (es : Entries) : Option Entries :=
  match AscMap.find k es with
  | none => some (AscMap.insertInto k (.table .opened []) es)
  | some (.table .implied sub) => some (AscMap.insertInto k (.table .opened sub) es)
  | some _ => none

/-- Opens a further table of a list of tables. -/
def openElement (k : Text) (es : Entries) : Option Entries :=
  match AscMap.find k es with
  | none => some (AscMap.insertInto k (.tables [[]]) es)
  | some (.tables els) => some (AscMap.insertInto k (.tables ([] :: els)) es)
  | some _ => none

end Concordance.Toml

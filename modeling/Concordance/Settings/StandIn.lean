import Concordance.Settings.Value

/-!
# Tables that stand for a value

In a file, a table with a certain key stands for the value under that key; what else the table says
does not count. Another key marks such a table with an identity, which no file can give: a file with
that key is refused. The outermost table is taken as it is.

* `ofFile?_text`, `ofFile?_standIn`: a text stands for itself, and so does one in a table of this
  kind.
-/

namespace Concordance.Settings.Value

/-- The key of the value that a table stands for. -/
def standInKey : Text := "___figment_value_value".toList

/-- The key of the identity of a value. -/
def identityKey : Text := "___figment_value_id".toList

/-- The value that a table with some entries stands for, unless one of them is an identity. -/
def ofEntries? (es : List (Text × Value)) : Option Value :=
  match AscMap.find identityKey es with
  | some _ => none
  | none => some ((AscMap.find standInKey es).getD (.table es))

mutual

/-- The value that a value in a file stands for. -/
def ofFile? : Value → Option Value
  | .table es => do ofEntries? (← entriesOfFile? es)
  | .list vs => .list <$> itemsOfFile? vs
  | v => some v

/-- What the entries of a table in a file stand for. -/
def entriesOfFile? : List (Text × Value) → Option (List (Text × Value))
  | [] => some []
  | e :: r => do return (← entryOfFile? e) :: (← entriesOfFile? r)

/-- What an entry of a table in a file stands for. -/
def entryOfFile? : Text × Value → Option (Text × Value)
  | (k, v) => v.ofFile?.map (k, ·)

/-- What the items of a list in a file stand for. -/
def itemsOfFile? : List Value → Option (List Value)
  | [] => some []
  | v :: r => do return (← v.ofFile?) :: (← itemsOfFile? r)

end

theorem ofFile?_text (t : Text) : ofFile? (.text t) = some (.text t) := rfl

theorem ofFile?_standIn (v : Value) : ofFile? (.table [(standInKey, v)]) = v.ofFile? := by
  have h : standInKey ≠ identityKey := by decide
  cases hv : v.ofFile? with
  | none => simp [ofFile?, entriesOfFile?, entryOfFile?, hv]
  | some w =>
    simp [ofFile?, entriesOfFile?, entryOfFile?, hv, ofEntries?, AscMap.find, h.symm]

end Concordance.Settings.Value

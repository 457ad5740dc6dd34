import Concordance.AscMap
import Concordance.Text.Basic

/-!
# Values of settings

What a source of settings says is a value: a table that has values under keys, a list, a text, or
something else of which nothing needs to be known but that it is none of these. Sources are layered:
the table of a later source adds its entries to that of an earlier one, and anything else of a later
source takes the place of what was there.

Model of the values that `Config` merges, as far as `Config.get` and `Config.settings` can tell them
apart.

* `find_mergeEntry`: what is under a key after one entry is layered over a table.
* `at?_under`: what is put under a path of keys is found there.

Out of scope: where a value comes from, which only the texts of errors tell.
-/

namespace Concordance.Settings

/-- What a source of settings says. -/
inductive Value where
  | text (t : Text)
  /-- A number, a truth value. -/
  | scalar
  | list (items : List Value)
  | table (entries : List (Text × Value))
  deriving Repr

namespace Value

instance : Inhabited Value := ⟨.table []⟩

mutual

/-- A value with a later one layered over it. -/
def merge (old : Value) : Value → Value
  | .table new =>
    match old with
    | .table es => .table (mergeEntries es new)
    | _ => .table new
  | v => v

/-- The entries of a table with later ones layered over them. -/
def mergeEntries (es : List (Text × Value)) : List (Text × Value) → List (Text × Value)
  | [] => es
  | e :: r => mergeEntries (mergeEntry es e) r

/-- The entries of a table with a later one layered over them. -/
def mergeEntry (es : List (Text × Value)) : Text × Value → List (Text × Value)
  | (k, v) =>
    AscMap.insertInto k (match AscMap.find k es with | some u => merge u v | none => v) es

end

/-- The value at the end of a path of keys. An empty key ends the path. -/
def at? (v : Value) : List Text → Option Value
  | [] => some v
  | k :: ks =>
    if k.isEmpty then some v
    else match v with
      | .table es =>
        match AscMap.find k es with
        | some u => u.at? ks
        | none => none
      | _ => none

/-- The value with a value at the end of a path of keys, and nothing else. -/
def under (v : Value) : List Text → Value
  | [] => v
  | k :: ks => .table [(k, v.under ks)]

/-- The text that a value is. -/
def text? : Value → Option Text
  | .text t => some t
  | _ => none

/-- What is under a key after one entry is layered over a table. -/
theorem find_mergeEntry (es : List (Text × Value)) (k : Text) (v : Value) (j : Text) :
    AscMap.find j (mergeEntry es (k, v)) =
      if j = k then some (((AscMap.find k es).map (·.merge v)).getD v) else AscMap.find j es := by
  rw [mergeEntry, AscMap.find_insertInto]
  cases AscMap.find k es <;> rfl

/-- What is put under a path of keys is found there. -/
theorem at?_under (v : Value) {ks : List Text} (h : ∀ k ∈ ks, k ≠ []) :
    (v.under ks).at? ks = some v := by
  induction ks with
  | nil => rfl
  | cons k ks ih =>
    have hk : k.isEmpty = false := by
      simpa using h k List.mem_cons_self
    simp only [under, at?, hk, AscMap.find, Bool.false_eq_true, ↓reduceIte]
    exact ih fun x hx => h x (List.mem_cons_of_mem _ hx)

end Value

end Concordance.Settings

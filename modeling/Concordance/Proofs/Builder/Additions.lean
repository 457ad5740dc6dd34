import Concordance.Builder
import Concordance.Proofs.Text.Cutting

/-!
# What a builder stores

A list of additions says by itself which documents have which words (`Mentions`). The index of a
builder stores exactly that, whatever the order and the repetitions of the additions, because each
operation below adds its own pairs to those that were there and keeps the others:

* `mem_postings_insert`, `contains_insert`: one word of one document.
* `mem_postings_add`, `contains_add`: one document.
* **`mem_postings_addAll`**, **`contains_addAll`**: a list of additions.

The operations are those of `add_document`.
-/

namespace Concordance

open Text (Solid)

/-- A text spells a word: without the white space around it, it is solid, and its lower-case form
is the word. -/
def Text.Spells (t w : Text) : Prop := Solid (Text.trim t) ∧ Text.lower (Text.trim t) = w

/-- Some addition gives a document a text that spells a word. -/
def Mentions (l : List (DocId × List Text)) (d : DocId) (w : Text) : Prop :=
  ∃ e ∈ l, e.1 = d ∧ ∃ t ∈ e.2, Text.Spells t w

/-- `wordOf?` finds the word that a text spells. -/
theorem wordOf?_eq_some_iff {t w : Text} : wordOf? t = some w ↔ Text.Spells t w := by
  have hcond : ((Text.trim t).isEmpty || (Text.trim t).any Text.isSpace) = false ↔
      Solid (Text.trim t) := by
    rw [Bool.or_eq_false_iff, List.isEmpty_eq_false_iff, List.any_eq_false, Solid]
    simp only [Bool.not_eq_true]
  simp only [wordOf?, Text.Spells, ← hcond]
  split
  · rename_i h
    simp [h]
  · rename_i h
    simp [Bool.eq_false_iff.mpr h]

/-! ## One word of one document -/

namespace Index

theorem mem_postings_insert {x : Index} {w v : Text} {d e : DocId} :
    d ∈ (x.insert w e).postings v ↔ (d = e ∧ v = w) ∨ d ∈ x.postings v := by
  rw [postings, get?_insert]
  by_cases hv : v = w
  · subst hv
    simp
  · simp [hv, postings]

theorem contains_insert {x : Index} {w v : Text} {d : DocId} :
    (x.insert w d).contains v = true ↔ v = w ∨ x.contains v = true := by
  rw [contains_iff, contains_iff, get?_insert]
  by_cases hv : v = w <;> simp [hv]

theorem mem_postings_foldl_insert {ws : List Text} {x : Index} {v : Text} {d e : DocId} :
    d ∈ (ws.foldl (fun x w => x.insert w e) x).postings v ↔ (d = e ∧ v ∈ ws) ∨ d ∈ x.postings v := by
  induction ws generalizing x with
  | nil => simp
  | cons w ws ih =>
    rw [List.foldl_cons, ih, mem_postings_insert, List.mem_cons, and_or_left, or_assoc]
    exact ⟨fun h => h.elim (fun h => Or.inr (Or.inl h)) fun h => h.imp id Or.inr,
      fun h => h.elim (fun h => Or.inr (Or.inl h)) fun h => h.imp id Or.inr⟩

theorem contains_foldl_insert {ws : List Text} {x : Index} {v : Text} {e : DocId} :
    (ws.foldl (fun x w => x.insert w e) x).contains v = true ↔ v ∈ ws ∨ x.contains v = true := by
  induction ws generalizing x with
  | nil => simp
  | cons w ws ih =>
    rw [List.foldl_cons, ih, contains_insert, List.mem_cons, or_left_comm, or_assoc]

end Index

/-! ## Additions -/

namespace Builder

theorem mem_postings_add {b : Builder} {e : DocId} {ts : List Text} {d : DocId} {w : Text} :
    d ∈ (b.add e ts).index.postings w ↔
      (d = e ∧ ∃ t ∈ ts, Text.Spells t w) ∨ d ∈ b.index.postings w := by
  simp only [add, Index.mem_postings_foldl_insert, List.mem_filterMap, wordOf?_eq_some_iff]

theorem contains_add {b : Builder} {e : DocId} {ts : List Text} {w : Text} :
    (b.add e ts).index.contains w = true ↔
      (∃ t ∈ ts, Text.Spells t w) ∨ b.index.contains w = true := by
  simp only [add, Index.contains_foldl_insert, List.mem_filterMap, wordOf?_eq_some_iff]

theorem mem_postings_addAll_from {b : Builder} {l : List (DocId × List Text)} {d : DocId}
    {w : Text} :
    d ∈ (b.addAll l).index.postings w ↔ Mentions l d w ∨ d ∈ b.index.postings w := by
  induction l generalizing b with
  | nil => simp [addAll, Mentions]
  | cons e l ih =>
    have hcons : Mentions (e :: l) d w ↔ (d = e.1 ∧ ∃ t ∈ e.2, Text.Spells t w) ∨ Mentions l d w := by
      simp only [Mentions, List.mem_cons, exists_eq_or_imp, eq_comm (a := d)]
    change d ∈ ((b.add e.1 e.2).addAll l).index.postings w ↔ _
    rw [ih, mem_postings_add, hcons, or_left_comm, or_assoc]

theorem contains_addAll_from {b : Builder} {l : List (DocId × List Text)} {w : Text} :
    (b.addAll l).index.contains w = true ↔ (∃ d, Mentions l d w) ∨ b.index.contains w = true := by
  induction l generalizing b with
  | nil => simp [addAll, Mentions]
  | cons e l ih =>
    have hcons : (∃ d, Mentions (e :: l) d w) ↔
        (∃ t ∈ e.2, Text.Spells t w) ∨ ∃ d, Mentions l d w := by
      simp only [Mentions, List.mem_cons, exists_eq_or_imp, exists_or, exists_eq_left']
    change ((b.add e.1 e.2).addAll l).index.contains w = true ↔ _
    rw [ih, contains_add, hcons, or_left_comm, or_assoc]

/-- **A document is stored under a word** iff some addition gives it a text that spells the word. -/
theorem mem_postings_addAll {l : List (DocId × List Text)} {d : DocId} {w : Text} :
    d ∈ (addAll ∅ l).index.postings w ↔ Mentions l d w :=
  mem_postings_addAll_from.trans (or_iff_left (AscSet.not_mem_empty d))

/-- **A word is stored** iff some addition has a text that spells it. -/
theorem contains_addAll {l : List (DocId × List Text)} {w : Text} :
    (addAll ∅ l).index.contains w = true ↔ ∃ d, Mentions l d w :=
  contains_addAll_from.trans (or_iff_left Bool.false_ne_true)

end Builder

end Concordance

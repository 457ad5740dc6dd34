import Concordance.Collection
import Concordance.Proofs.Index.RoundTrip
import Concordance.Proofs.Query.Evaluation

/-!
# Searching what was added

Between adding documents and finding them stand the builder, the text of the index, the universe and
the evaluation of a query. Each is described for one document by itself, so that a search can be
too: a document is found iff it satisfies the expression of the query, read over the additions. That
a file stands between them does not show, because what is built is legible.

These are `add_document`, `write_index` and `parse_index`, `Universe.derive`, and `search`.

* `Universe.mem_derive`: the documents that a negation counts.
* **`Collection.mem_search_addAll`**: what is found in the index that was built.
* **`Collection.mem_search_iff_satisfies`**: what is found in the index that was read back.
-/

namespace Concordance

variable {d : DocId} {r : Registry} {x : Index} {l : List (DocId × List Text)}

theorem Universe.mem_derive :
    d ∈ Universe.derive r x ↔
      if r = ∅ then ∃ w, d ∈ x.postings w else ∃ url, r.get? d = some url := by
  unfold Universe.derive
  by_cases hr : r = ∅
  · rw [if_pos (Registry.isEmpty_iff.mpr hr), if_pos hr]
    exact Index.mem_docIds
  · rw [if_neg fun h => hr (Registry.isEmpty_iff.mp h), if_neg hr]
    exact Registry.mem_docIds.trans Option.isSome_iff_exists

/-- A document counts for negations: it is registered or, where nothing is, it was added with a
word. -/
def Known (l : List (DocId × List Text)) (r : Registry) (d : DocId) : Prop :=
  if r = ∅ then ∃ w, Mentions l d w else ∃ url, r.get? d = some url

theorem Universe.mem_derive_addAll :
    d ∈ Universe.derive r (Builder.addAll ∅ l).index ↔ Known l r d := by
  rw [Universe.mem_derive, Known]
  simp only [Builder.mem_postings_addAll]

namespace Collection

/-- A query finds a document that satisfies its expression. -/
theorem mem_search {c : Collection} {q : Text} :
    d ∈ c.search q ↔
      Query.Satisfies (fun w => d ∈ c.index.postings w) (d ∈ c.known) (Query.parseQuery q).expr :=
  Query.mem_evaluate _

/-- **What is found in a built index**, said of the additions alone. -/
theorem mem_search_addAll {q : Text} :
    d ∈ (Collection.of (Builder.addAll ∅ l).index r).search q ↔
      Query.Satisfies (Mentions l d) (Known l r d) (Query.parseQuery q).expr := by
  have hcontains : (fun w => d ∈ (Builder.addAll ∅ l).index.postings w) = Mentions l d :=
    funext fun w => propext Builder.mem_postings_addAll
  have hknown : (d ∈ Universe.derive r (Builder.addAll ∅ l).index) = Known l r d :=
    propext Universe.mem_derive_addAll
  rw [mem_search, Collection.of, hcontains, hknown]

/-- **Searching finds what was added**: whatever was added, the text of the index can be read, and a
query over what is read finds the documents that satisfy its expression over the additions. -/
theorem mem_search_iff_satisfies (l : List (DocId × List Text)) (r : Registry) (q : Text) :
    ∃ x, Index.ofText (Builder.addAll ∅ l).index.toText = .ok x ∧
      ∀ d, d ∈ (Collection.of x r).search q ↔
        Query.Satisfies (Mentions l d) (Known l r d) (Query.parseQuery q).expr := by
  have hread := Index.ofText_toText (Index.legible_addAll l)
  exact ⟨(Builder.addAll ∅ l).index, hread, fun d => mem_search_addAll⟩

end Collection

end Concordance

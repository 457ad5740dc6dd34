import Concordance.Proofs.Collection.Search

/-!
# Documents are independent

Whether a query finds a document depends on what two collections say of that document alone: which
words they store it under and whether negations count it (`Agree`). Adding a document says nothing
of any other, neither in the index nor in a universe that is derived from it, so that it moves no
other document in or out of the result of any query.

* `Agree.mem_search_iff`: collections that agree on a document find it by the same queries.
* `agree_add`, `agree_addAll`: builders agree on documents that were not added in between.
* **`search_add_filter`**: one more document changes results in that document only.
-/

namespace Concordance.Collection

variable {b : Builder} {r : Registry} {d n : DocId} {texts : List Text}

/-- Two collections say the same of a document. -/
structure Agree (d : DocId) (c c' : Collection) : Prop where
  postings : ∀ w, d ∈ c.index.postings w ↔ d ∈ c'.index.postings w
  known : d ∈ c.known ↔ d ∈ c'.known

/-- Collections that agree on a document find it by the same queries. -/
theorem Agree.mem_search_iff {c c' : Collection} (h : Agree d c c') (q : Text) :
    d ∈ c.search q ↔ d ∈ c'.search q := by
  have hcontains : (fun w => d ∈ c.index.postings w) = fun w => d ∈ c'.index.postings w :=
    funext fun w => propext (h.postings w)
  rw [mem_search, mem_search, hcontains, h.known]

theorem Agree.refl (d : DocId) (c : Collection) : Agree d c c := ⟨fun _ => Iff.rfl, Iff.rfl⟩

theorem Agree.trans {c c' c'' : Collection} (h : Agree d c c') (h' : Agree d c' c'') :
    Agree d c c'' :=
  ⟨fun w => (h.postings w).trans (h'.postings w), h.known.trans h'.known⟩

/-- Indexes that agree on a document give universes that do, where these are derived. -/
theorem agree_of {x y : Index} (h : ∀ w, d ∈ x.postings w ↔ d ∈ y.postings w) (r : Registry) :
    Agree d (.of x r) (.of y r) := by
  refine ⟨h, ?_⟩
  change d ∈ Universe.derive r x ↔ d ∈ Universe.derive r y
  rw [Universe.mem_derive, Universe.mem_derive]
  simp only [h]

/-! ## Additions -/

/-- Taking a document says nothing of another. -/
theorem agree_add (b : Builder) (r : Registry) (texts : List Text) (h : d ≠ n) :
    Agree d (.of (b.add n texts).index r) (.of b.index r) :=
  agree_of (fun _ => Builder.mem_postings_add.trans (or_iff_right fun hd => h hd.1)) r

/-- Taking documents says nothing of one that is not among them. -/
theorem agree_addAll (b : Builder) (r : Registry) (l : List (DocId × List Text))
    (h : ∀ e ∈ l, d ≠ e.1) : Agree d (.of (b.addAll l).index r) (.of b.index r) := by
  induction l generalizing b with
  | nil => exact .refl d _
  | cons e l ih =>
    have hrest : ∀ e ∈ l, d ≠ e.1 := fun e he => h e (List.mem_cons_of_mem _ he)
    exact (ih (b.add e.1 e.2) hrest).trans (agree_add b r e.2 (h e List.mem_cons_self))

/-- **One more document** changes what a query finds in that document only, whether negations count
what is registered or what is in the index. -/
theorem search_add_filter (b : Builder) (r : Registry) (n : DocId) (texts : List Text) (q : Text) :
    ((Collection.of (b.add n texts).index r).search q).filter (· ≠ n) =
      ((Collection.of b.index r).search q).filter (· ≠ n) := by
  refine AscSet.ext_mem fun d => ?_
  rw [AscSet.mem_filter, AscSet.mem_filter, decide_eq_true_eq]
  exact and_congr_left fun hd => (agree_add b r texts hd).mem_search_iff q

end Concordance.Collection

import Concordance.Proofs.Collection.Search
import Concordance.Proofs.Query.Canonical
import Concordance.Proofs.Query.LexicalRule

/-!
# Finding a word by typing it

A word is lower-cased when it is added, again when the index is read back, and on its own when it is
typed as a query. All of these agree, so typing a word finds the documents that were added with it
in whatever letters, if the query is read as this one word (`Typable`). It is not if it has a
parenthesis in it or starts with an operator word that ends there, and these are the only words that
cannot be looked up as themselves.

Words are lower-cased by `add_document`, `parse_index` and `tokenize`.

* **`tokenize_eq_term_iff`**: the words that are read as one term.
* **`Collection.search_typed`**: what is found for a word.
-/

namespace Concordance

open Text (Solid)

namespace Query

variable {w : Text}

/-- A word that is read as one term: it has no parenthesis in it, and does not start with the word
of an operator, in any ASCII case, that ends there. -/
structure Typable (w : Text) : Prop where
  no_paren : ∀ c ∈ w, c ≠ '(' ∧ c ≠ ')'
  no_operator : ∀ word rest op, ¬ LeadsWith w word rest op

theorem Typable.unbroken (h : Typable w) (hw : Solid w) : Unbroken w :=
  fun c hc => ⟨hw.2 c hc, h.no_paren c hc⟩

theorem Typable.tokenize_eq (h : Typable w) (hw : Solid w) :
    tokenize w = [.term (Text.lower w)] := by
  rw [tokenize_of_unbroken hw.1 (h.unbroken hw), Lexeme.tokens,
    leadingOperator?_eq_none_iff_leadsWith.mpr h.no_operator]

/-- A parenthesis is a token wherever it is. -/
theorem mem_tokenize_of_mem {c : Char} {p : Token} (hc : c ∈ w) (hp : parenToken? c = some p) :
    p ∈ tokenize w := by
  obtain ⟨a, b, rfl⟩ := List.append_of_mem hc
  rw [tokenize_append_paren a b hp]
  simp

/-- So is an operator word at the start of a word. -/
theorem LeadsWith.mem_tokenize {word rest : Text} {op : Token} (h : LeadsWith w word rest op)
    (hw : w ≠ []) (hunbroken : Unbroken w) : op ∈ tokenize w := by
  have hlead := leadingOperator?_eq_some_iff.mpr ⟨word, h⟩
  rw [tokenize_of_unbroken hw hunbroken, Lexeme.tokens, hlead]
  cases rest <;> simp

/-- **The words that are read as one term.** -/
theorem tokenize_eq_term_iff (hw : Solid w) : tokenize w = [.term (Text.lower w)] ↔ Typable w := by
  refine ⟨fun h => ?_, fun h => h.tokenize_eq hw⟩
  have hno_paren : ∀ c ∈ w, c ≠ '(' ∧ c ≠ ')' := by
    intro c hc
    refine parenToken?_eq_none_iff.mp (Option.eq_none_iff_forall_ne_some.mpr fun p hp => ?_)
    have hmem := mem_tokenize_of_mem hc hp
    rw [h, List.mem_singleton] at hmem
    rcases isPart_of_parenToken? hp with rfl | rfl <;> cases hmem
  refine ⟨hno_paren, fun word rest op hlead => ?_⟩
  have hmem := hlead.mem_tokenize hw.1 fun c hc => ⟨hw.2 c hc, hno_paren c hc⟩
  rw [h, List.mem_singleton] at hmem
  subst hmem
  cases hlead.spells

theorem Typable.parseQuery_eq (h : Typable w) (hw : Solid w) :
    parseQuery w = ⟨.term (Text.lower w), []⟩ := by
  rw [parseQuery, h.tokenize_eq hw]
  exact parse_flatten (e := .term (Text.lower w)) rfl (Nat.zero_le maxNesting)

end Query

namespace Collection

open Query (Typable tokenize)

/-- **A stored word is found by typing it**: the text of a built index can be read, and whatever is
registered, a word finds the documents that were added with a text that spells it, in whatever
letters. This is said of every word that is read as one term, in lower case; a word is not read so
exactly if it has a parenthesis or an operator word in the way. -/
theorem search_typed (l : List (DocId × List Text)) :
    ∃ x, Index.ofText (Builder.addAll ∅ l).index.toText = .ok x ∧
      ∀ c : Collection, c.index = x → ∀ w, Solid w →
        (tokenize w = [.term (Text.lower w)] ↔ Typable w) ∧
        (Typable w → ∀ d, d ∈ c.search w ↔ ∃ e ∈ l, e.1 = d ∧
          ∃ t ∈ e.2, Solid (Text.trim t) ∧ Text.lower (Text.trim t) = Text.lower w) := by
  have hread := Index.ofText_toText (Index.legible_addAll l)
  refine ⟨(Builder.addAll ∅ l).index, hread, fun c hc w hw => ⟨Query.tokenize_eq_term_iff hw, ?_⟩⟩
  intro htyped d
  rw [mem_search, htyped.parseQuery_eq hw, Query.Satisfies, hc, Builder.mem_postings_addAll]
  rfl

/-- A word that grows when it is lower-cased, added in small letters with white space around it and
typed in capitals; with white space inside it is no word. -/
theorem search_typed_capitals :
    ∃ x, Index.ofText
        (Builder.addAll ∅ [(7, [" i\u0307s ".toList]), (8, ["İ S".toList])]).index.toText = .ok x ∧
      Solid "İS".toList ∧ Typable "İS".toList ∧ 7 ∈ (Collection.of x ∅).search "İS".toList ∧
      8 ∉ (Collection.of x ∅).search "İS".toList := by
  obtain ⟨x, hx, hfound⟩ := search_typed [(7, [" i\u0307s ".toList]), (8, ["İ S".toList])]
  have hsolid : Solid "İS".toList := by decide
  obtain ⟨hread, hsearch⟩ := hfound (.of x ∅) rfl "İS".toList hsolid
  have htyped : Typable "İS".toList := hread.mp (by decide)
  refine ⟨x, hx, hsolid, htyped, (hsearch htyped 7).mpr ?_, fun h => ?_⟩
  · exact ⟨_, List.mem_cons_self, rfl, _, List.mem_cons_self, by decide⟩
  · obtain ⟨e, he, hd, t, ht, hsolid', -⟩ := (hsearch htyped 8).mp h
    simp only [List.mem_cons, List.not_mem_nil, or_false] at he
    rcases he with rfl | rfl
    · exact absurd hd (by decide)
    · rcases List.mem_singleton.mp ht with rfl
      exact absurd hsolid' (by decide)

end Collection

end Concordance

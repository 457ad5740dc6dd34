import Concordance.Proofs.Query.Canonical
import Concordance.Proofs.Query.Lexing

/-!
# The text of a tree is read back

The text of a tree adds no parentheses of its own, so it is read back only where the shape of the
tree says what the text does not: if the tree is canonical. Then the text has the tokens that spell
the tree, except that a missing operand, which no token spells, has a word in the text. It is read
as the term of this word (`Expr.named`).

A tree that is read from its text is therefore complete: it is canonical as every tree that is read,
so what is read from its text has a term for every missing operand.

The text of a tree is what an `Expr` is displayed as, and `parse_query` reads it.

* **`tokenize_toText`**: the tokens of the text of a tree.
* **`Takes.words`**: reading loses no term, repeats none and keeps their order.
* **`parseQuery_toText`**: what is read from the text of a canonical tree.
* **`parseQuery_toText_iff`**: which trees are read back from their texts.
-/

namespace Concordance.Query

open Concordance.Query.Expr (toText joinTexts joinMore flattenAll flattenMore terms termsAll)

/-! ## Words for missing operands -/

namespace Expr

mutual

/-- The tree with a term for every operand that is missing: the word that stands for it in texts. -/
def named : Expr → Expr
  | .term w => .term w
  | .and es => .and (namedAll es)
  | .or es => .or (namedAll es)
  | .not e => .not (named e)
  | .group e => .group (named e)
  | .empty => .term ['<', 'e', 'm', 'p', 't', 'y', '>']

/-- The trees of a list with a term for every operand that is missing. -/
def namedAll : List Expr → List Expr
  | [] => []
  | e :: es => named e :: namedAll es

end

theorem namedAll_eq_map (es : List Expr) : namedAll es = es.map named := by
  induction es with
  | nil => rfl
  | cons e es ih => rw [namedAll, ih, List.map_cons]

theorem isPrimary_named (e : Expr) : e.named.isPrimary = e.isPrimary := by
  cases e <;> rfl

theorem isOr_named (e : Expr) : e.named.isOr = e.isOr := by
  cases e <;> rfl

mutual

theorem isCanonical_named : (e : Expr) → e.named.isCanonical = e.isCanonical
  | .term _ | .empty => rfl
  | .and es => by
    rw [named, isCanonical, isCanonical, allCanonical_namedAll es, namedAll_eq_map]
    simp [Function.comp_def, isPrimary_named]
  | .or es => by
    rw [named, isCanonical, isCanonical, allCanonical_namedAll es, namedAll_eq_map]
    simp [Function.comp_def, isOr_named]
  | .not e => by rw [named, isCanonical, isCanonical, isPrimary_named, isCanonical_named e]
  | .group e => by rw [named, isCanonical, isCanonical, isCanonical_named e]

theorem allCanonical_namedAll : (es : List Expr) → allCanonical (namedAll es) = allCanonical es
  | [] => rfl
  | e :: es => by
    rw [namedAll, allCanonical, allCanonical, isCanonical_named e, allCanonical_namedAll es]

end

mutual

theorem nesting_named : (e : Expr) → e.named.nesting = e.nesting
  | .term _ | .empty => rfl
  | .and es | .or es => nestingAll_namedAll es
  | .not e | .group e => congrArg (· + 1) (nesting_named e)

theorem nestingAll_namedAll : (es : List Expr) → nestingAll (namedAll es) = nestingAll es
  | [] => rfl
  | e :: es => by rw [namedAll, nestingAll, nestingAll, nesting_named e, nestingAll_namedAll es]

end

mutual

/-- The trees to which nothing is added are the complete ones. -/
theorem named_eq_self_iff : (e : Expr) → (e.named = e ↔ e.isComplete = true)
  | .term _ => iff_of_true rfl rfl
  | .and es | .or es => by
    rw [named, isComplete, ← namedAll_eq_self_iff es]
    simp
  | .not e | .group e => by
    rw [named, isComplete, ← named_eq_self_iff e]
    simp
  | .empty => iff_of_false (by simp [named]) (by simp [isComplete])

theorem namedAll_eq_self_iff : (es : List Expr) → (namedAll es = es ↔ allComplete es = true)
  | [] => iff_of_true rfl rfl
  | e :: es => by
    rw [namedAll, allComplete_cons, List.cons.injEq, named_eq_self_iff e, namedAll_eq_self_iff es]

end

end Expr

/-! ## The tokens of a text -/

/-- The word that stands for a missing operand is a term. -/
theorem isTerm_empty : IsTerm ['<', 'e', 'm', 'p', 't', 'y', '>'] where
  ne_nil := by simp
  unbroken := by
    simp only [Unbroken, List.forall_mem_cons, List.not_mem_nil, false_implies, implies_true]
    decide
  lower := by decide
  no_operator := by simp

/-- A text between queries is an operator between their tokens. -/
def Separates (sep : Text) (op : Token) : Prop :=
  ∀ a b, tokenize (a ++ sep ++ b) = tokenize a ++ op :: tokenize b

mutual

/-- **The tokens of the text of a tree** spell the tree with words for its missing operands. -/
theorem tokenize_toText : (e : Expr) → (∀ w ∈ e.terms, IsTerm w) →
    tokenize e.toText = e.named.flatten
  | .term w => fun h => tokenize_of_isTerm (h w (List.mem_singleton.mpr rfl))
  | .and es => tokenize_joinTexts tokenize_conjoined es
  | .or es => tokenize_joinTexts tokenize_disjoined es
  | .not e => fun h => (tokenize_negated _).trans (congrArg _ (tokenize_toText e h))
  | .group e => by
    intro h
    have htext : tokenize (Expr.group e).toText = .lparen :: (tokenize e.toText ++ [.rparen]) :=
      tokenize_inParens _
    rw [htext, tokenize_toText e h]
    rfl
  | .empty => fun _ => tokenize_of_isTerm isTerm_empty

theorem tokenize_joinTexts {sep : Text} {op : Token} (hsep : Separates sep op) :
    (es : List Expr) → (∀ w ∈ termsAll es, IsTerm w) →
      tokenize (joinTexts sep es) = flattenAll op (Expr.namedAll es)
  | [] => fun _ => rfl
  | e :: es => by
    intro h
    obtain ⟨he, hes⟩ := List.forall_mem_append.mp h
    rw [joinTexts, tokenize_append_joinMore hsep es hes, tokenize_toText e he]
    rfl

-- an operator is one only after a text that is cut there, so the text before it is generalised
theorem tokenize_append_joinMore {sep : Text} {op : Token} (hsep : Separates sep op) :
    (es : List Expr) → (∀ w ∈ termsAll es, IsTerm w) → ∀ a,
      tokenize (a ++ joinMore sep es) = tokenize a ++ flattenMore op (Expr.namedAll es)
  | [] => fun _ a => by simp [joinMore, Expr.namedAll, flattenMore]
  | e :: es => by
    intro h a
    obtain ⟨he, hes⟩ := List.forall_mem_append.mp h
    rw [joinMore, List.append_assoc, ← List.append_assoc a, hsep,
      tokenize_append_joinMore hsep es hes, tokenize_toText e he]
    rfl

end

/-! ## The terms that are read -/

/-- The word of a token that is a term. -/
def Token.word? : Token → Option Text
  | .term w => some w
  | .and | .or | .not | .lparen | .rparen => none

/-- The words of the terms among tokens. -/
def words (ts : List Token) : List Text := ts.filterMap Token.word?

theorem mem_words {ts : List Token} {w : Text} : w ∈ words ts ↔ Token.term w ∈ ts := by
  rw [words, List.mem_filterMap]
  constructor
  · rintro ⟨t, ht, hw⟩
    cases t <;> cases hw
    exact ht
  · intro h
    exact ⟨.term w, h, rfl⟩

mutual

/-- The words that a tree looks up are those of the tokens that spell it. -/
theorem words_flatten : (e : Expr) → words e.flatten = e.terms
  | .term _ | .empty => rfl
  | .and es => words_flattenAll rfl es
  | .or es => words_flattenAll rfl es
  | .not e => words_flatten e
  | .group e => by
    rw [Expr.flatten, words, List.filterMap_cons_none rfl, List.filterMap_append]
    exact (List.append_nil _).trans (words_flatten e)

theorem words_flattenAll {op : Token} (hop : op.word? = none) :
    (es : List Expr) → words (flattenAll op es) = termsAll es
  | [] => rfl
  | e :: es => by
    rw [flattenAll, termsAll, words, List.filterMap_append]
    exact congrArg₂ _ (words_flatten e) (words_flattenMore hop es)

theorem words_flattenMore {op : Token} (hop : op.word? = none) :
    (es : List Expr) → words (flattenMore op es) = termsAll es
  | [] => rfl
  | e :: es => by
    rw [flattenMore, termsAll, words, List.filterMap_cons_none hop, List.filterMap_append]
    exact congrArg₂ _ (words_flatten e) (words_flattenMore hop es)

end

/-- The terms that a reading takes and those that it leaves are the terms that were given. -/
theorem Takes.words {ts us fl : List Token} (h : Takes ts us fl) :
    Query.words ts = Query.words fl ++ Query.words us := by
  obtain ⟨c, k, rfl, rfl, -⟩ := h
  have hclose : Query.words (List.replicate k .rparen) = [] := by
    rw [Query.words, List.filterMap_replicate_of_none rfl]
  simp only [Query.words, List.filterMap_append] at hclose ⊢
  rw [hclose, List.append_nil]

/-- Every word that the tree of a query looks up is a term. -/
theorem isTerm_of_mem_terms {q w : Text} (h : w ∈ (parseQuery q).expr.terms) : IsTerm w := by
  have htakes : Takes (tokenize q) _ (parseQuery q).expr.flatten := (parse_reads (tokenize q)).takes
  have hmem : w ∈ words (tokenize q) := by
    rw [htakes.words, words_flatten]
    exact List.mem_append_left _ h
  exact isTerm_of_mem_tokenize (mem_words.mp hmem)

/-! ## Reading a text back -/

/-- **What is read from the text of a canonical tree** is the tree with words for its missing
operands. -/
theorem parseQuery_toText {e : Expr} (hc : e.isCanonical = true) (hn : e.nesting ≤ maxNesting)
    (hw : ∀ w ∈ e.terms, IsTerm w) : parseQuery e.toText = ⟨e.named, []⟩ := by
  rw [parseQuery, tokenize_toText e hw]
  exact parse_flatten (e.isCanonical_named ▸ hc) (e.nesting_named ▸ hn)

/-- A tree that its text says all about: it has the shape that the grammar gives, no operand is
missing in it, it is nested no deeper than the cap, and the words that it looks up are terms. -/
structure Expr.Printable (e : Expr) : Prop where
  canonical : e.isCanonical = true
  complete : e.isComplete = true
  nesting_le : e.nesting ≤ 256
  isTerm : ∀ w ∈ e.terms, IsTerm w

theorem Expr.Printable.parseQuery_eq {e : Expr} (h : e.Printable) :
    parseQuery e.toText = ⟨e, []⟩ := by
  rw [parseQuery_toText h.canonical h.nesting_le h.isTerm, e.named_eq_self_iff.mpr h.complete]

/-- A tree that is read from its own text has the shape, the depth and the terms of a tree that is
read, and lacks no operand, for what is read has a word for it. -/
theorem Expr.printable_of_parseQuery {e : Expr} (h : (parseQuery e.toText).expr = e) :
    e.Printable := by
  have hc : e.isCanonical = true := h ▸ isCanonical_parse (tokenize e.toText)
  have hn : e.nesting ≤ maxNesting := by
    have hle := nesting_parse_le (tokenize e.toText)
    rwa [← parseQuery, h] at hle
  have hw : ∀ w ∈ e.terms, IsTerm w := fun w hw => isTerm_of_mem_terms (q := e.toText) (h.symm ▸ hw)
  have hnamed : e.named = e := by
    rw [parseQuery_toText hc hn hw] at h
    exact h
  exact ⟨hc, e.named_eq_self_iff.mp hnamed, hn, hw⟩

/-- **A tree is read back from its text** exactly if it is canonical and complete, is nested no
deeper than the cap and looks up terms; then nothing is left. So the text of the tree of any query
is read as this tree, with a word for every operand that is missing in it, and nothing is left. -/
theorem parseQuery_toText_iff :
    (∀ e : Expr, ((parseQuery e.toText).expr = e ↔ e.Printable) ∧
      (parseQuery e.toText = ⟨e, []⟩ ↔ e.Printable)) ∧
      ∀ q, parseQuery (parseQuery q).expr.toText = ⟨(parseQuery q).expr.named, []⟩ := by
  refine ⟨fun e => ⟨⟨Expr.printable_of_parseQuery, fun h => ?_⟩, ⟨fun h => ?_, fun h => ?_⟩⟩,
    fun q => ?_⟩
  · exact congrArg Parsed.expr h.parseQuery_eq
  · exact Expr.printable_of_parseQuery (congrArg Parsed.expr h)
  · exact h.parseQuery_eq
  · exact parseQuery_toText (isCanonical_parse _) (nesting_parse_le _) fun _ => isTerm_of_mem_terms

end Concordance.Query

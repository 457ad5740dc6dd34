import Concordance.Collection
import Concordance.Proofs.Query.Lexing
import Concordance.Proofs.Text.Capitals

/-!
# Case and spacing of queries

A query can be written in many ways that mean the same (`Respelled`): its letters in either ASCII
case, any white space for any other, and more or less of it at the ends and beside parentheses. None
of this makes two runs of one, or one of two: where white space comes and goes a run ends anyway,
and no letter is changed into white space or a parenthesis. What a run is read as does not depend on
the case of its letters either, since operator words, the ends of words and the small letters, the
final sigma too, are the same in both.

* **`tokenize_map_toLower`**: the tokens of a query whose ASCII letters are made small.
* `tokenize_append_blank_append`: white space of any length cuts a query.
* **`tokenize_eq_of_respelled`**: a query that is written differently has the same tokens and finds
  the same documents.
-/

namespace Concordance.Query

open Text (isSpace isBlank)

variable {a b q q' s t : Text} {p : Token}

/-! ## Letters in either case -/

theorem parenToken?_toLower (c : Char) : parenToken? c.toLower = parenToken? c :=
  Text.apply_toLower parenToken? (by decide) c

/-- A lexeme with its ASCII letters made small. -/
def Lexeme.uncapitalized : Lexeme → Lexeme
  | .paren p => .paren p
  | .run t => .run (t.map Char.toLower)

theorem endRun_map_toLower (run : Text) :
    endRun (run.map Char.toLower) = (endRun run).map Lexeme.uncapitalized := by
  unfold endRun
  cases run with
  | nil => rfl
  | cons c run => simp [Lexeme.uncapitalized]

/-- A query is cut at the same characters in either case. -/
theorem lexemesFrom_map_toLower (run q : Text) :
    lexemesFrom (run.map Char.toLower) (q.map Char.toLower) =
      (lexemesFrom run q).map Lexeme.uncapitalized := by
  induction q generalizing run with
  | nil => exact endRun_map_toLower run
  | cons c q ih =>
    have hnil := ih []
    rw [List.map_nil] at hnil
    rw [List.map_cons, lexemesFrom, lexemesFrom, Text.isSpace_toLower, parenToken?_toLower, hnil,
      endRun_map_toLower, ← List.map_cons, ih]
    split
    · rw [List.map_append]
    · split
      · rw [List.map_append, List.map_cons, Lexeme.uncapitalized]
      · rfl

theorem dropWord?_map_toLower (word run : Text) :
    dropWord? word (run.map Char.toLower) = (dropWord? word run).map (·.map Char.toLower) := by
  induction word generalizing run with
  | nil => rfl
  | cons k word ih =>
    cases run with
    | nil => rfl
    | cons c run =>
      rw [List.map_cons, dropWord?, dropWord?, Text.toLower_toLower, ih]
      split <;> rfl

theorem atBoundary_map_toLower (t : Text) : atBoundary (t.map Char.toLower) = atBoundary t := by
  cases t with
  | nil => rfl
  | cons c t => rw [List.map_cons, atBoundary, atBoundary, Text.isWordChar_toLower]

theorem leadingOperator?_map_toLower (run : Text) : leadingOperator? (run.map Char.toLower) =
    (leadingOperator? run).map fun (op, rest) => (op, rest.map Char.toLower) := by
  unfold leadingOperator?
  rw [List.map_findSome?]
  congr 1
  funext ⟨word, op⟩
  simp only [Function.comp_apply]
  rw [dropWord?_map_toLower]
  cases dropWord? word run with
  | none => rfl
  | some rest => cases h : atBoundary rest <;> simp [Option.filter, atBoundary_map_toLower, h]

theorem tokens_uncapitalized (l : Lexeme) : l.uncapitalized.tokens = l.tokens := by
  cases l with
  | paren p => rfl
  | run t =>
    rw [Lexeme.uncapitalized, Lexeme.tokens, Lexeme.tokens, leadingOperator?_map_toLower,
      Text.lower_map_toLower]
    cases leadingOperator? t with
    | none => rfl
    | some found =>
      obtain ⟨op, rest⟩ := found
      cases rest with
      | nil => rfl
      | cons c rest => exact congrArg (fun w => [op, .term w]) (Text.lower_map_toLower (c :: rest))

/-- **The tokens of a query do not depend on the ASCII case of its letters.** -/
theorem tokenize_map_toLower (q : Text) : tokenize (q.map Char.toLower) = tokenize q := by
  have hcut : lexemes (q.map Char.toLower) = (lexemes q).map Lexeme.uncapitalized :=
    lexemesFrom_map_toLower [] q
  rw [tokenize, hcut, List.flatMap_map, tokenize]
  exact congrArg (fun f => (lexemes q).flatMap f) (funext tokens_uncapitalized)

/-! ## White space -/

theorem tokenize_blank_append (hs : isBlank s = true) (q : Text) :
    tokenize (s ++ q) = tokenize q := by
  induction s with
  | nil => rfl
  | cons c s ih =>
    rw [isBlank, List.all_cons, Bool.and_eq_true] at hs
    rw [List.cons_append, tokenize_cons_space hs.1, ih hs.2]

/-- White space cuts a query, however much of it there is. -/
theorem tokenize_append_blank_append (hne : s ≠ []) (hs : isBlank s = true) (a b : Text) :
    tokenize (a ++ s ++ b) = tokenize a ++ tokenize b := by
  obtain ⟨c, s, rfl⟩ := List.exists_cons_of_ne_nil hne
  rw [isBlank, List.all_cons, Bool.and_eq_true] at hs
  rw [List.append_assoc, List.cons_append, tokenize_append_space a _ hs.1,
    tokenize_blank_append hs.2]

theorem tokenize_append_blank (hs : isBlank s = true) (q : Text) :
    tokenize (q ++ s) = tokenize q := by
  by_cases hne : s = []
  · rw [hne, List.append_nil]
  · have hcut := tokenize_append_blank_append hne hs q []
    rwa [List.append_nil, show tokenize [] = [] from rfl, List.append_nil] at hcut

/-! ## Queries that are written differently -/

/-- Queries that differ in nothing but the ASCII case of letters, the white space that is between
other characters, and whether there is white space at the ends and beside parentheses. -/
inductive Respelled : Text → Text → Prop where
  | refl (q : Text) : Respelled q q
  | symm {q q' : Text} : Respelled q q' → Respelled q' q
  | trans {q q' q'' : Text} : Respelled q q' → Respelled q' q'' → Respelled q q''
  /-- Letters are written in the other ASCII case. -/
  | letters {q q' : Text} : q.map Char.toLower = q'.map Char.toLower → Respelled q q'
  /-- White space is written for other white space. -/
  | space {s t : Text} (a b : Text) : s ≠ [] → t ≠ [] → isBlank s = true → isBlank t = true →
    Respelled (a ++ s ++ b) (a ++ t ++ b)
  /-- White space is written in front. -/
  | front {s : Text} (q : Text) : isBlank s = true → Respelled q (s ++ q)
  /-- White space is written at the end. -/
  | back {s : Text} (q : Text) : isBlank s = true → Respelled q (q ++ s)
  /-- White space is written before a parenthesis. -/
  | before {s : Text} {c : Char} (a b : Text) : c = '(' ∨ c = ')' → isBlank s = true →
    Respelled (a ++ c :: b) (a ++ s ++ c :: b)
  /-- White space is written after a parenthesis. -/
  | after {s : Text} {c : Char} (a b : Text) : c = '(' ∨ c = ')' → isBlank s = true →
    Respelled (a ++ c :: b) (a ++ c :: (s ++ b))

theorem exists_parenToken? {c : Char} (h : c = '(' ∨ c = ')') : ∃ p, parenToken? c = some p := by
  rcases h with rfl | rfl
  · exact ⟨.lparen, rfl⟩
  · exact ⟨.rparen, rfl⟩

theorem Respelled.tokenize_eq (h : Respelled q q') : tokenize q = tokenize q' := by
  induction h with
  | refl => rfl
  | symm _ ih => exact ih.symm
  | trans _ _ ih ih' => exact ih.trans ih'
  | @letters q q' hsame => rw [← tokenize_map_toLower q, hsame, tokenize_map_toLower]
  | space a b hs ht hblank hblank' =>
    rw [tokenize_append_blank_append hs hblank, tokenize_append_blank_append ht hblank']
  | front q hblank => rw [tokenize_blank_append hblank]
  | back q hblank => rw [tokenize_append_blank hblank]
  | before a b hparen hblank =>
    obtain ⟨p, hp⟩ := exists_parenToken? hparen
    rw [tokenize_append_paren a b hp, tokenize_append_paren _ b hp, tokenize_append_blank hblank]
  | after a b hparen hblank =>
    obtain ⟨p, hp⟩ := exists_parenToken? hparen
    rw [tokenize_append_paren a b hp, tokenize_append_paren a _ hp, tokenize_blank_append hblank]

/-- **A query that is written differently has the same tokens**, and every collection finds the same
documents for it. -/
theorem tokenize_eq_of_respelled (h : Respelled q q') :
    tokenize q = tokenize q' ∧ ∀ c : Collection, c.search q = c.search q' := by
  refine ⟨h.tokenize_eq, fun c => ?_⟩
  rw [Collection.search, Collection.search, parseQuery, parseQuery, h.tokenize_eq]

/-- A capital sigma ends a word before any white space and after a letter of either case, and an
operator word ends before a parenthesis with or without white space between. -/
theorem tokenize_eq_of_respelled_sigma :
    Respelled "AΣ and(x)".toList " aΣ\u2003AND (X)".toList ∧
      tokenize "AΣ and(x)".toList = tokenize " aΣ\u2003AND (X)".toList ∧
      ∀ c : Collection, c.search "AΣ and(x)".toList = c.search " aΣ\u2003AND (X)".toList := by
  have h : Respelled "AΣ and(x)".toList " aΣ\u2003AND (X)".toList := by
    have hletters : Respelled "AΣ and(x)".toList "aΣ AND(X)".toList := .letters (by decide)
    have hspace : Respelled "aΣ AND(X)".toList "aΣ\u2003AND(X)".toList :=
      .space (s := [' ']) (t := ['\u2003']) "aΣ".toList "AND(X)".toList nofun nofun rfl rfl
    have hparen : Respelled "aΣ\u2003AND(X)".toList "aΣ\u2003AND (X)".toList :=
      .before (s := [' ']) "aΣ\u2003AND".toList "X)".toList (.inl rfl) rfl
    have hfront : Respelled "aΣ\u2003AND (X)".toList " aΣ\u2003AND (X)".toList :=
      .front (s := [' ']) _ rfl
    exact ((hletters.trans hspace).trans hparen).trans hfront
  exact ⟨h, tokenize_eq_of_respelled h⟩

end Concordance.Query

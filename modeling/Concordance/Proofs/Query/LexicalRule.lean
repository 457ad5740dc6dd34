import Concordance.Proofs.Query.Lexing
import Concordance.Proofs.Query.Lossless

/-!
# The lexical rule of queries

The rule says of a query which tokens it has, each with the part of the query that it is read from
(`Lexes`). It is applied from left to right: white space is passed over, a parenthesis is a token,
and a run goes as far as no white space or parenthesis comes. A run that starts with an operator word
is divided after the word, if the word ends there (`LeadsWith`).

`tokenize` is this rule. As a term starts with no operator word of its own, the texts of tokens with
spaces between are read as the same tokens, whatever query the tokens come from.

* `leadingOperator?_eq_some_iff`: the operator that a run starts with.
* `Lexes.tokenize_eq`, `exists_lexes`: the rule gives the tokens of a query, and gives them of every
  query.
* **`tokenize_exact`**: tokens by the rule, and what becomes of the characters of a query.
* **`tokenize_textOf_iff`**: the tokens whose texts are read as the same tokens.
-/

namespace Concordance.Query

open Text (isSpace isAlphanumeric isWordChar)

variable {run word rest word' rest' q w : Text} {op op' : Token} {ts : List Token}

/-! ## Operator words -/

/-- A word is that of an operator, in any ASCII case. -/
inductive SpellsOperator (word : Text) : Token → Prop where
  | and : word.map Char.toLower = ['a', 'n', 'd'] → SpellsOperator word .and
  | or : word.map Char.toLower = ['o', 'r'] → SpellsOperator word .or
  | not : word.map Char.toLower = ['n', 'o', 't'] → SpellsOperator word .not

/-- A run starts with the word of an operator that ends there: nothing follows it in the run, or a
character that is neither alphanumeric nor an underscore. -/
structure LeadsWith (run word rest : Text) (op : Token) : Prop where
  run_eq : run = word ++ rest
  spells : SpellsOperator word op
  ends : ∀ c, rest.head? = some c → isAlphanumeric c = false ∧ c ≠ '_'

theorem spellsOperator_iff :
    SpellsOperator word op ↔ (word.map Char.toLower, op) ∈ operatorWords := by
  simp only [operatorWords, List.mem_cons, List.not_mem_nil, or_false, Prod.mk.injEq]
  constructor
  · rintro (h | h | h) <;> simp [h]
  · rintro (⟨h, rfl⟩ | ⟨h, rfl⟩ | ⟨h, rfl⟩)
    · exact .and h
    · exact .or h
    · exact .not h

/-- Operator words that start alike are one. -/
theorem SpellsOperator.unique (h : SpellsOperator word op) (h' : SpellsOperator word' op')
    (hhead : word.head? = word'.head?) : word.length = word'.length ∧ op = op' := by
  have hone : ∀ k ∈ operatorWords, ∀ k' ∈ operatorWords, k.1.head? = k'.1.head? → k = k' := by
    decide
  have heq := hone _ (spellsOperator_iff.mp h) _ (spellsOperator_iff.mp h') (by simp [hhead])
  obtain ⟨hword, hop⟩ := Prod.mk.inj heq
  exact ⟨by simpa using congrArg List.length hword, hop⟩

theorem SpellsOperator.ne_nil (h : SpellsOperator word op) : word ≠ [] := by
  rintro rfl
  cases h <;> contradiction

/-- A run starts with one operator at most. -/
theorem LeadsWith.unique (h : LeadsWith run word rest op) (h' : LeadsWith run word' rest' op') :
    op = op' ∧ rest = rest' := by
  have happ : word ++ rest = word' ++ rest' := h.run_eq.symm.trans h'.run_eq
  have hhead : word.head? = word'.head? := by
    obtain ⟨c, word, rfl⟩ := List.exists_cons_of_ne_nil h.spells.ne_nil
    obtain ⟨d, word', rfl⟩ := List.exists_cons_of_ne_nil h'.spells.ne_nil
    exact congrArg some (List.cons.inj happ).1
  obtain ⟨hlength, hop⟩ := h.spells.unique h'.spells hhead
  exact ⟨hop, (List.append_inj happ hlength).2⟩

theorem dropWord?_eq_some_iff {k : Text} :
    dropWord? k run = some rest ↔ ∃ word, run = word ++ rest ∧ word.map Char.toLower = k := by
  induction k generalizing run with
  | nil => simp [dropWord?, eq_comm]
  | cons x k ih =>
    cases run with
    | nil => simp [dropWord?]
    | cons c run =>
      rw [dropWord?]
      constructor
      · intro h
        split at h
        · rename_i hc
          obtain ⟨word, rfl, rfl⟩ := ih.mp h
          exact ⟨c :: word, rfl, by rw [List.map_cons, hc]⟩
        · cases h
      · rintro ⟨word, hrun, hword⟩
        obtain ⟨d, word, rfl⟩ := List.exists_cons_of_ne_nil (l := word) (by rintro rfl; cases hword)
        obtain ⟨rfl, rfl⟩ := List.cons.inj hrun
        obtain ⟨hc, rfl⟩ := List.cons.inj hword
        rw [if_pos hc]
        exact ih.mpr ⟨word, rfl, rfl⟩

theorem atBoundary_iff :
    atBoundary rest = true ↔ ∀ c, rest.head? = some c → isAlphanumeric c = false ∧ c ≠ '_' := by
  cases rest with
  | nil => simp [atBoundary]
  | cons c rest => simp [atBoundary, isWordChar]

/-- **The operator that a run starts with.** -/
theorem leadingOperator?_eq_some_iff :
    leadingOperator? run = some (op, rest) ↔ ∃ word, LeadsWith run word rest op := by
  have hfound {op : Token} {rest : Text} (h : leadingOperator? run = some (op, rest)) :
      ∃ word, LeadsWith run word rest op := by
    obtain ⟨⟨k, op⟩, hk, rfl, hdrop, hbound⟩ := exists_of_leadingOperator? h
    obtain ⟨word, hrun, rfl⟩ := dropWord?_eq_some_iff.mp hdrop
    exact ⟨word, hrun, spellsOperator_iff.mpr hk, atBoundary_iff.mp hbound⟩
  refine ⟨hfound, fun ⟨word, h⟩ => ?_⟩
  cases hlead : leadingOperator? run with
  | none =>
    have hnone := leadingOperator?_eq_none_iff.mp hlead _ (spellsOperator_iff.mp h.spells) rest
      (dropWord?_eq_some_iff.mpr ⟨word, h.run_eq, rfl⟩)
    exact absurd (atBoundary_iff.mpr h.ends) (by simp [hnone])
  | some found =>
    obtain ⟨word', h'⟩ := hfound hlead
    obtain ⟨hop, hrest⟩ := h'.unique h
    rw [← hop, ← hrest]

theorem leadingOperator?_eq_none_iff_leadsWith :
    leadingOperator? run = none ↔ ∀ word rest op, ¬ LeadsWith run word rest op := by
  rw [Option.eq_none_iff_forall_ne_some]
  constructor
  · intro h word rest op hlead
    exact h (op, rest) (leadingOperator?_eq_some_iff.mpr ⟨word, hlead⟩)
  · rintro h ⟨op, rest⟩ hsome
    obtain ⟨word, hlead⟩ := leadingOperator?_eq_some_iff.mp hsome
    exact h word rest op hlead

/-! ## The rule -/

/-- A token with the part of a query that it is read from. -/
structure Span where
  source : Text
  token : Token

/-- The tokens of a run: an operator, an operator and a term of what follows it, or a term. -/
inductive ReadsRun (run : Text) : List Span → Prop where
  | operator {op : Token} : LeadsWith run run [] op → ReadsRun run [⟨run, op⟩]
  | divided {word rest : Text} {op : Token} : LeadsWith run word rest op → rest ≠ [] →
    ReadsRun run [⟨word, op⟩, ⟨rest, .term (Text.lower rest)⟩]
  | term : (∀ word rest op, ¬ LeadsWith run word rest op) →
    ReadsRun run [⟨run, .term (Text.lower run)⟩]

/-- The tokens of a query, from left to right. A run ends where the query does, or before white
space or a parenthesis. -/
inductive Lexes : Text → List Span → Prop where
  | nil : Lexes [] []
  | space {c : Char} {q : Text} {spans : List Span} : isSpace c = true → Lexes q spans →
    Lexes (c :: q) spans
  | lparen {q : Text} {spans : List Span} : Lexes q spans →
    Lexes ('(' :: q) (⟨['('], .lparen⟩ :: spans)
  | rparen {q : Text} {spans : List Span} : Lexes q spans →
    Lexes (')' :: q) (⟨[')'], .rparen⟩ :: spans)
  | run {run q : Text} {first spans : List Span} : run ≠ [] → Unbroken run →
    (∀ c, q.head? = some c → isSpace c = true ∨ c = '(' ∨ c = ')') → ReadsRun run first →
    Lexes q spans → Lexes (run ++ q) (first ++ spans)

theorem exists_readsRun (run : Text) : ∃ spans, ReadsRun run spans := by
  by_cases h : ∃ word rest op, LeadsWith run word rest op
  · obtain ⟨word, rest, op, hlead⟩ := h
    by_cases hrest : rest = []
    · subst hrest
      have hrun : run = word := hlead.run_eq.trans (List.append_nil word)
      subst hrun
      exact ⟨_, .operator hlead⟩
    · exact ⟨_, .divided hlead hrest⟩
  · exact ⟨_, .term fun word rest op hlead => h ⟨word, rest, op, hlead⟩⟩

/-- What belongs to a run. -/
def inRun (c : Char) : Bool := !(isSpace c || c == '(' || c == ')')

theorem inRun_iff {c : Char} : inRun c = true ↔ isSpace c = false ∧ c ≠ '(' ∧ c ≠ ')' := by
  simp [inRun, and_assoc]

theorem inRun_eq_false_iff {c : Char} :
    inRun c = false ↔ isSpace c = true ∨ c = '(' ∨ c = ')' := by
  rw [inRun, Bool.not_eq_false', Bool.or_eq_true, Bool.or_eq_true, beq_iff_eq, beq_iff_eq, or_assoc]

/-- A run goes up to what ends it, and leaves less. -/
theorem takeWhile_inRun {c : Char} (hc : inRun c = true) (r : Text) :
    (c :: r).takeWhile inRun ≠ [] ∧ Unbroken ((c :: r).takeWhile inRun) ∧
      (∀ x, ((c :: r).dropWhile inRun).head? = some x → isSpace x = true ∨ x = '(' ∨ x = ')') ∧
      ((c :: r).dropWhile inRun).length < (c :: r).length := by
  refine ⟨?_, fun x hx => ?_, fun x hx => ?_, ?_⟩
  · rw [List.takeWhile_cons_of_pos hc]
    nofun
  · exact inRun_iff.mp (List.all_eq_true.mp List.all_takeWhile x hx)
  · have hout := List.head?_dropWhile_not inRun (c :: r)
    rw [hx] at hout
    exact inRun_eq_false_iff.mp hout
  · rw [List.dropWhile_cons_of_pos hc]
    exact Nat.lt_succ_of_le (List.dropWhile_sublist inRun).length_le

/-- **The rule can be applied to every query.** -/
theorem exists_lexes (q : Text) : ∃ spans, Lexes q spans := by
  induction hn : q.length using Nat.strongRecOn generalizing q with
  | _ n ih =>
  cases q with
  | nil => exact ⟨[], .nil⟩
  | cons c r =>
    have hrest := ih r.length (by rw [← hn, List.length_cons]; omega) r rfl
    by_cases hspace : isSpace c = true
    · obtain ⟨spans, h⟩ := hrest
      exact ⟨spans, .space hspace h⟩
    by_cases hopen : c = '('
    · subst hopen
      obtain ⟨spans, h⟩ := hrest
      exact ⟨_, .lparen h⟩
    by_cases hclose : c = ')'
    · subst hclose
      obtain ⟨spans, h⟩ := hrest
      exact ⟨_, .rparen h⟩
    have hc : inRun c = true := inRun_iff.mpr ⟨by simpa using hspace, hopen, hclose⟩
    obtain ⟨hne, hrun, hend, hlength⟩ := takeWhile_inRun hc r
    obtain ⟨first, hfirst⟩ := exists_readsRun ((c :: r).takeWhile inRun)
    obtain ⟨spans, h⟩ := ih ((c :: r).dropWhile inRun).length (by omega) _ rfl
    exact ⟨first ++ spans, List.takeWhile_append_dropWhile (p := inRun) (l := c :: r) ▸
      .run hne hrun hend hfirst h⟩

/-! ## Reading by the rule -/

theorem ReadsRun.tokens_eq {spans : List Span} (h : ReadsRun run spans) :
    (Lexeme.run run).tokens = spans.map Span.token := by
  cases h with
  | operator hlead =>
    rw [Lexeme.tokens, leadingOperator?_eq_some_iff.mpr ⟨_, hlead⟩]
    rfl
  | divided hlead hrest =>
    rw [Lexeme.tokens, leadingOperator?_eq_some_iff.mpr ⟨_, hlead⟩]
    split
    · rename_i heq
      exact absurd (congrArg Prod.snd (Option.some.inj heq)) hrest
    · rename_i heq
      obtain ⟨rfl, rfl⟩ := Prod.mk.inj (Option.some.inj heq)
      rfl
    · rename_i heq
      cases heq
  | term hnone =>
    rw [Lexeme.tokens, leadingOperator?_eq_none_iff_leadsWith.mpr hnone]
    rfl

theorem ReadsRun.source_eq {spans : List Span} (h : ReadsRun run spans) :
    spans.flatMap Span.source = run := by
  cases h with
  | operator hlead => exact List.append_nil run
  | divided hlead hrest => simp [hlead.run_eq]
  | term hnone => exact List.append_nil run

/-- A run is cut off by what ends it. -/
theorem lexemes_run_append (hne : run ≠ []) (hrun : Unbroken run)
    (hend : ∀ c, q.head? = some c → isSpace c = true ∨ c = '(' ∨ c = ')') :
    lexemes (run ++ q) = .run run :: lexemes q := by
  have hfirst : lexemesFrom [] run = [.run run] := lexemes_of_unbroken hne hrun
  have hparen {c : Char} {p : Token} (q : Text) (hc : parenToken? c = some p) :
      lexemes (run ++ c :: q) = .run run :: lexemes (c :: q) := by
    rw [lexemes, lexemesFrom_append_paren _ _ _ (isSpace_of_parenToken? hc) hc, hfirst,
      lexemes_cons_paren hc]
    rfl
  cases q with
  | nil => rw [List.append_nil]; exact hfirst
  | cons c q =>
    rcases hend c rfl with hspace | rfl | rfl
    · rw [lexemes, lexemesFrom_append_space _ _ _ hspace, hfirst, lexemes_cons_space hspace]
      rfl
    · exact hparen q rfl
    · exact hparen q rfl

/-- A run is read apart from what ends it. -/
theorem tokenize_run_append (hne : run ≠ []) (hrun : Unbroken run)
    (hend : ∀ c, q.head? = some c → isSpace c = true ∨ c = '(' ∨ c = ')') :
    tokenize (run ++ q) = (Lexeme.run run).tokens ++ tokenize q := by
  rw [tokenize, lexemes_run_append hne hrun hend, List.flatMap_cons, ← tokenize]

/-- **The rule gives the tokens of a query.** -/
theorem Lexes.tokenize_eq {spans : List Span} (h : Lexes q spans) :
    tokenize q = spans.map Span.token := by
  induction h with
  | nil => rfl
  | space hc _ ih => rw [tokenize_cons_space hc, ih]
  | lparen _ ih => rw [tokenize_cons_paren rfl, ih, List.map_cons]
  | rparen _ ih => rw [tokenize_cons_paren rfl, ih, List.map_cons]
  | run hne hrun hend hfirst _ ih =>
    rw [tokenize_run_append hne hrun hend, hfirst.tokens_eq, ih, List.map_append]

/-- Every character belongs to one token, in order, but for white space. -/
theorem Lexes.source_eq {spans : List Span} (h : Lexes q spans) :
    spans.flatMap Span.source = q.filter (!isSpace ·) := by
  induction h with
  | nil => rfl
  | space hc _ ih => rw [List.filter_cons_of_neg (by simp [hc]), ih]
  | lparen _ ih => rw [List.filter_cons_of_pos (by decide), ← ih]; rfl
  | rparen _ ih => rw [List.filter_cons_of_pos (by decide), ← ih]; rfl
  | @run run q first spans _ hrun _ hfirst _ ih =>
    have hkept : run.filter (!isSpace ·) = run :=
      List.filter_eq_self.mpr fun c hc => by rw [(hrun c hc).1]; rfl
    rw [List.flatMap_append, hfirst.source_eq, ih, List.filter_append, hkept]

/-! ## The words of terms -/

/-- A term starts with no operator word. -/
theorem isTerm_iff : IsTerm w ↔ w ≠ [] ∧ Unbroken w ∧ Text.lower w = w ∧
    ∀ word rest op, ¬ LeadsWith w word rest op := by
  rw [← leadingOperator?_eq_none_iff_leadsWith]
  constructor
  · intro h
    exact ⟨h.ne_nil, h.unbroken, h.lower, h.leadingOperator?⟩
  · rintro ⟨hne, hunbroken, hlower, hnone⟩
    exact hlower ▸ isTerm_lower hne hunbroken hnone

/-- **The tokens of a query are those that the rule gives**, and the rule can be applied to every
query. The characters of a query belong each to one token, in order, but for white space. The word
of a term is not empty, has no white space or parenthesis in it, and starts with no operator word
that ends there. -/
theorem tokenize_exact (q : Text) :
    (∃ spans, Lexes q spans) ∧
      (∀ spans, Lexes q spans → tokenize q = spans.map Span.token ∧
        spans.flatMap Span.source = q.filter (!isSpace ·)) ∧
      ∀ w, .term w ∈ tokenize q →
        w ≠ [] ∧ Unbroken w ∧ ∀ word rest op, ¬ LeadsWith w word rest op := by
  refine ⟨exists_lexes q, fun spans h => ⟨h.tokenize_eq, h.source_eq⟩, fun w hw => ?_⟩
  obtain ⟨hne, hunbroken, -, hnone⟩ := isTerm_iff.mp (isTerm_of_mem_tokenize hw)
  exact ⟨hne, hunbroken, hnone⟩

/-! ## Texts of tokens -/

/-- The text of a token is read as the token, if it is one that can be read. -/
theorem tokenize_toText_token {t : Token} (h : ∀ w, t = .term w → IsTerm w) :
    tokenize t.toText = [t] := by
  cases t with
  | term w => exact tokenize_of_isTerm (h w rfl)
  | and | or | not | lparen | rparen => decide

theorem tokenize_textOf (h : ∀ w, .term w ∈ ts → IsTerm w) : tokenize (Token.textOf ts) = ts := by
  induction ts with
  | nil => rfl
  | cons t ts ih =>
    have hfirst := tokenize_toText_token fun w hw => h w (hw ▸ List.mem_cons_self)
    have hrest := ih fun w hw => h w (List.mem_cons_of_mem t hw)
    cases ts with
    | nil => exact hfirst
    | cons u us =>
      have htext : Token.textOf (t :: u :: us) = t.toText ++ ' ' :: Token.textOf (u :: us) := by
        simp [Token.textOf, Text.join]
      rw [htext, tokenize_append_space _ _ (by decide), hfirst, hrest]
      rfl

/-- **The tokens whose texts are read as the same tokens**, with spaces between, are those whose
terms are words that a query can have: not empty, without white space and parentheses, in lower
case, and not with an operator word in front that ends there. The tokens of every query are such, so
what is left over of a query is read from its text. -/
theorem tokenize_textOf_iff :
    (∀ ts, tokenize (Token.textOf ts) = ts ↔ ∀ w, .term w ∈ ts → w ≠ [] ∧ Unbroken w ∧
      Text.lower w = w ∧ ∀ word rest op, ¬ LeadsWith w word rest op) ∧
      (∀ q w, .term w ∈ tokenize q → w ≠ [] ∧ Unbroken w ∧ Text.lower w = w ∧
        ∀ word rest op, ¬ LeadsWith w word rest op) ∧
      ∀ q, tokenize (parseQuery q).trailingText = (parseQuery q).trailing := by
  simp only [← isTerm_iff]
  refine ⟨fun ts => ⟨fun h w hw => ?_, tokenize_textOf⟩, fun q w => isTerm_of_mem_tokenize,
    fun q => ?_⟩
  · exact isTerm_of_mem_tokenize (h.symm ▸ hw)
  · have hsuffix : (parseQuery q).trailing <:+ tokenize q :=
      (parse_reads (tokenize q)).takes.isSuffix
    exact tokenize_textOf fun w hw => isTerm_of_mem_tokenize (hsuffix.subset hw)

end Concordance.Query

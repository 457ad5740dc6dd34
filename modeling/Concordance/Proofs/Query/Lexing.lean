import Concordance.Query.Token
import Concordance.Proofs.Text.Letters

/-!
# Queries and their tokens

White space and parentheses cut a query into parts that are read independently, so the tokens of a
query that is put together from others are known from theirs. A word that can be a term (`IsTerm`)
is read as that term; nothing else is ever read as one, because what a term is does not depend on
capital letters.

* **`tokenize_append_space`**, **`tokenize_append_paren`**: cutting at a character.
* `tokenize_inParens`, `tokenize_conjoined`, `tokenize_disjoined`, `tokenize_negated`: queries that
  are put together.
* **`tokenize_of_isTerm`**, **`isTerm_of_mem_tokenize`**: the words that are read as terms.
-/

namespace Concordance.Query

open Text (isSpace isWordChar lowerAfter lowerBetween IsPlain IsSmall)

variable {a b q r t w : Text} {c x : Char} {op p : Token}

/-! ## Cutting a query -/

theorem isSpace_of_parenToken? (h : parenToken? c = some p) : isSpace c = false := by
  unfold parenToken? at h
  split at h
  · subst c
    decide
  · split at h
    · subst c
      decide
    · cases h

/-- **White space cuts a query.** -/
theorem tokenize_append_space (a b : Text) (hc : isSpace c = true) :
    tokenize (a ++ c :: b) = tokenize a ++ tokenize b := by
  simp only [tokenize, lexemes, lexemesFrom_append_space _ _ _ hc, List.flatMap_append]

/-- **A parenthesis cuts a query**, and is a token of its own. -/
theorem tokenize_append_paren (a b : Text) (hc : parenToken? c = some p) :
    tokenize (a ++ c :: b) = tokenize a ++ p :: tokenize b := by
  simp only [tokenize, lexemes, lexemesFrom_append_paren _ _ _ (isSpace_of_parenToken? hc) hc,
    List.flatMap_append, List.flatMap_cons, Lexeme.tokens, List.singleton_append]

theorem lexemes_cons_space (hc : isSpace c = true) : lexemes (c :: q) = lexemes q :=
  lexemesFrom_append_space [] [] q hc

theorem lexemes_cons_paren (hc : parenToken? c = some p) :
    lexemes (c :: q) = .paren p :: lexemes q :=
  lexemesFrom_append_paren [] [] q (isSpace_of_parenToken? hc) hc

theorem tokenize_cons_space (hc : isSpace c = true) : tokenize (c :: q) = tokenize q :=
  tokenize_append_space [] q hc

theorem tokenize_cons_paren (hc : parenToken? c = some p) : tokenize (c :: q) = p :: tokenize q :=
  tokenize_append_paren [] q hc

/-! ## Putting queries together -/

/-- A query in parentheses. -/
def inParens (q : Text) : Text := '(' :: (q ++ [')'])

/-- Two queries with `AND` between. -/
def conjoined (a b : Text) : Text := a ++ [' ', 'A', 'N', 'D', ' '] ++ b

/-- Two queries with `OR` between. -/
def disjoined (a b : Text) : Text := a ++ [' ', 'O', 'R', ' '] ++ b

/-- A query after `NOT`. -/
def negated (q : Text) : Text := 'N' :: 'O' :: 'T' :: ' ' :: q

theorem tokenize_inParens (q : Text) :
    tokenize (inParens q) = .lparen :: (tokenize q ++ [.rparen]) := by
  have hopen : parenToken? '(' = some .lparen := rfl
  have hclose : parenToken? ')' = some .rparen := rfl
  have hcut := tokenize_append_paren [] (q ++ [')']) hopen
  rw [tokenize_append_paren q [] hclose] at hcut
  exact hcut

/-- An operator word between spaces cuts a query, and is a token of its own. -/
theorem tokenize_append_word (word : Text) (h : tokenize word = [op]) (a b : Text) :
    tokenize (a ++ (' ' :: (word ++ [' '])) ++ b) = tokenize a ++ op :: tokenize b := by
  have hspace : isSpace ' ' = true := by decide
  rw [List.append_assoc, List.cons_append, List.append_assoc, tokenize_append_space a _ hspace,
    List.singleton_append, tokenize_append_space word b hspace, h]
  rfl

theorem tokenize_conjoined (a b : Text) :
    tokenize (conjoined a b) = tokenize a ++ .and :: tokenize b :=
  tokenize_append_word ['A', 'N', 'D'] (by decide) a b

theorem tokenize_disjoined (a b : Text) :
    tokenize (disjoined a b) = tokenize a ++ .or :: tokenize b :=
  tokenize_append_word ['O', 'R'] (by decide) a b

theorem tokenize_negated (q : Text) : tokenize (negated q) = .not :: tokenize q := by
  have hword : tokenize ['N', 'O', 'T'] = [.not] := by decide
  have hcut := tokenize_append_space ['N', 'O', 'T'] q (c := ' ') (by decide)
  rw [hword] at hcut
  exact hcut

/-! ## The parts of a query -/

/-- A text without white space and parentheses. -/
def Unbroken (t : Text) : Prop := ∀ c ∈ t, isSpace c = false ∧ c ≠ '(' ∧ c ≠ ')'

theorem unbroken_nil : Unbroken [] := fun _ hc => absurd hc List.not_mem_nil

theorem parenToken?_eq_none_iff : parenToken? c = none ↔ c ≠ '(' ∧ c ≠ ')' := by
  unfold parenToken?
  split
  · simp [*]
  · split <;> simp [*]

/-- Lower-casing breaks no text. -/
theorem Unbroken.lower (h : Unbroken t) : Unbroken (Text.lower t) := by
  intro c hc
  refine ⟨Bool.eq_false_iff.mpr fun hs => ?_, ?_, ?_⟩
  · obtain ⟨d, hd, hds⟩ := Text.isSpace_of_mem_lower hc hs
    exact absurd hds (by simp [(h d hd).1])
  · rintro rfl
    exact (h _ (Text.mem_of_mem_lower hc (by decide))).2.1 rfl
  · rintro rfl
    exact (h _ (Text.mem_of_mem_lower hc (by decide))).2.2 rfl

/-- What the parts of a query are: parentheses, and unbroken texts that are not empty. -/
def Lexeme.IsPart : Lexeme → Prop
  | .paren p => p = .lparen ∨ p = .rparen
  | .run t => t ≠ [] ∧ Unbroken t

theorem isPart_of_mem_endRun {run : Text} (h : Unbroken run) {l : Lexeme} (hl : l ∈ endRun run) :
    l.IsPart := by
  unfold endRun at hl
  split at hl
  · exact absurd hl List.not_mem_nil
  · rename_i hne
    rcases List.mem_singleton.mp hl with rfl
    exact ⟨by simpa using hne, fun c hc => h c (List.mem_reverse.mp hc)⟩

theorem isPart_of_parenToken? (h : parenToken? c = some p) : (Lexeme.paren p).IsPart := by
  unfold parenToken? at h
  split at h
  · exact .inl (Option.some.inj h).symm
  · split at h
    · exact .inr (Option.some.inj h).symm
    · cases h

theorem isPart_of_mem_lexemesFrom {q run : Text} (h : Unbroken run) {l : Lexeme}
    (hl : l ∈ lexemesFrom run q) : l.IsPart := by
  induction q generalizing run with
  | nil => exact isPart_of_mem_endRun h hl
  | cons c q ih =>
    unfold lexemesFrom at hl
    split at hl
    · rcases List.mem_append.mp hl with hl | hl
      · exact isPart_of_mem_endRun h hl
      · exact ih unbroken_nil hl
    · rename_i hs
      split at hl
      · rename_i p hp
        rcases List.mem_append.mp hl with hl | hl
        · exact isPart_of_mem_endRun h hl
        · rcases List.mem_cons.mp hl with rfl | hl
          · exact isPart_of_parenToken? hp
          · exact ih unbroken_nil hl
      · rename_i hp
        have hc : isSpace c = false ∧ c ≠ '(' ∧ c ≠ ')' :=
          ⟨by simpa using hs, parenToken?_eq_none_iff.mp hp⟩
        exact ih (List.forall_mem_cons.mpr ⟨hc, h⟩) hl

theorem isPart_of_mem_lexemes {l : Lexeme} (hl : l ∈ lexemes q) : l.IsPart :=
  isPart_of_mem_lexemesFrom unbroken_nil hl

theorem lexemesFrom_of_unbroken (h : Unbroken t) (run : Text) :
    lexemesFrom run t = endRun (t.reverse ++ run) := by
  induction t generalizing run with
  | nil => rfl
  | cons c t ih =>
    obtain ⟨hs, hp⟩ := h c List.mem_cons_self
    rw [lexemesFrom, if_neg (by simp [hs]), parenToken?_eq_none_iff.mpr hp]
    simp only
    rw [ih fun x hx => h x (List.mem_cons_of_mem _ hx), List.reverse_cons, List.append_assoc]
    rfl

/-- An unbroken text is one run. -/
theorem lexemes_of_unbroken (hne : t ≠ []) (h : Unbroken t) : lexemes t = [.run t] := by
  rw [lexemes, lexemesFrom_of_unbroken h, endRun, if_neg (by simp [hne]), List.append_nil,
    List.reverse_reverse]

theorem tokenize_of_unbroken (hne : t ≠ []) (h : Unbroken t) :
    tokenize t = (Lexeme.run t).tokens := by
  rw [tokenize, lexemes_of_unbroken hne h, List.flatMap_singleton]

/-! ## Operator words -/

/-- The operator words are spelled with plain characters, and with small ones. -/
theorem isPlain_of_mem_operatorWords :
    ∀ k ∈ operatorWords, ∀ x ∈ k.1, IsPlain x ∧ x.toLower = x := by
  simp only [operatorWords, List.forall_mem_cons, List.not_mem_nil, false_implies, implies_true]
  decide

theorem ne_term_of_mem_operatorWords : ∀ k ∈ operatorWords, ∀ w, k.2 ≠ .term w := by
  simp [operatorWords]

theorem dropWord?_append {word : Text} (h : ∀ x ∈ word, x.toLower = x) (r : Text) :
    dropWord? word (word ++ r) = some r := by
  induction word with
  | nil => rfl
  | cons x word ih =>
    rw [List.cons_append, dropWord?, if_pos (h x List.mem_cons_self)]
    exact ih fun y hy => h y (List.mem_cons_of_mem _ hy)

theorem mem_of_dropWord? {word : Text} (h : dropWord? word t = some r) (hx : x ∈ r) : x ∈ t := by
  induction word generalizing t with
  | nil => exact Option.some.inj h ▸ hx
  | cons k word ih =>
    match t with
    | [] => cases h
    | c :: t =>
      rw [dropWord?] at h
      split at h
      · exact List.mem_cons_of_mem _ (ih h)
      · cases h

/-- In a lower-cased text a word starts only where it starts in the text itself. -/
theorem dropWord?_lowerAfter {word : Text} (hword : ∀ x ∈ word, IsPlain x) {before t r : Text}
    (h : dropWord? word (lowerAfter before t) = some r) :
    ∃ s b, dropWord? word t = some s ∧ r = lowerAfter b s := by
  induction word generalizing before t with
  | nil => exact ⟨t, before, rfl, (Option.some.inj h).symm⟩
  | cons k word ih =>
    match t with
    | [] => cases h
    | c :: t =>
      obtain ⟨y, ys, hy⟩ := List.exists_cons_of_ne_nil (Text.lowerBetween_ne_nil before c t)
      rw [lowerAfter, hy, List.cons_append, dropWord?] at h
      split at h
      · rename_i hk
        -- a character may become two, but never a letter of an operator word and another
        obtain ⟨hc, rfl⟩ := Text.toLower_eq_of_lowerBetween hy (hword k List.mem_cons_self) hk
        rw [dropWord?, if_pos hc]
        exact ih (fun x hx => hword x (List.mem_cons_of_mem _ hx)) h
      · cases h

/-- A word starts a text of small characters only if it is spelled there. -/
theorem eq_append_of_dropWord? {word : Text} (hword : ∀ x ∈ word, IsPlain x)
    (ht : ∀ c ∈ t, IsSmall c) (h : dropWord? word t = some r) : t = word ++ r := by
  induction word generalizing t with
  | nil => exact Option.some.inj h
  | cons k word ih =>
    match t with
    | [] => cases h
    | c :: t =>
      rw [dropWord?] at h
      split at h
      · rename_i hk
        obtain ⟨hlt, hne, -⟩ := hword k List.mem_cons_self
        have hc : c = k :=
          (ht c List.mem_cons_self).2.2.symm.trans ((Text.lowerChar_eq_iff_toLower hlt hne).mpr hk)
        rw [hc, ih (fun x hx => hword x (List.mem_cons_of_mem _ hx))
          (fun x hx => ht x (List.mem_cons_of_mem _ hx)) h]
        rfl
      · cases h

theorem atBoundary_of_lowerAfter {before : Text} (h : atBoundary (lowerAfter before t) = true) :
    atBoundary t = true := by
  match t with
  | [] => rfl
  | c :: t =>
    obtain ⟨y, ys, hy⟩ := List.exists_cons_of_ne_nil (Text.lowerBetween_ne_nil before c t)
    rw [lowerAfter, hy, List.cons_append, atBoundary, Bool.not_eq_true'] at h
    rw [atBoundary, Bool.not_eq_true', Bool.eq_false_iff]
    intro hc
    exact absurd (Text.isWordChar_of_lowerBetween hc hy) (by simp [h])

theorem leadingOperator?_eq_none_iff : leadingOperator? t = none ↔
    ∀ k ∈ operatorWords, ∀ r, dropWord? k.1 t = some r → atBoundary r = false := by
  simp [leadingOperator?, List.findSome?_eq_none_iff, Option.filter_eq_none_iff]

theorem exists_of_leadingOperator? (h : leadingOperator? t = some (op, r)) :
    ∃ k ∈ operatorWords, k.2 = op ∧ dropWord? k.1 t = some r ∧ atBoundary r = true := by
  obtain ⟨k, hk, he⟩ := List.exists_of_findSome?_eq_some h
  obtain ⟨s, hs, he⟩ := Option.map_eq_some_iff.mp he
  obtain ⟨hs, hb⟩ := Option.filter_eq_some_iff.mp hs
  obtain ⟨rfl, rfl⟩ := Prod.mk.inj he
  exact ⟨k, hk, rfl, hs, hb⟩

/-- What follows an operator word starts with none. -/
theorem leadingOperator?_of_atBoundary (hne : t ≠ []) (h : atBoundary t = true) :
    leadingOperator? t = none := by
  refine leadingOperator?_eq_none_iff.mpr fun k hk r hr => ?_
  have hfirst : ∀ k ∈ operatorWords, k.1 ≠ [] ∧ k.1.all isWordChar = true := by decide
  obtain ⟨hk0, hkall⟩ := hfirst k hk
  obtain ⟨x, word, hx⟩ := List.exists_cons_of_ne_nil hk0
  obtain ⟨c, s, rfl⟩ := List.exists_cons_of_ne_nil hne
  rw [hx, dropWord?] at hr
  split at hr
  · rename_i hc
    have hword := List.all_eq_true.mp hkall x (by simp [hx])
    rw [← hc, Text.isWordChar_toLower] at hword
    rw [atBoundary, hword] at h
    exact absurd h (by decide)
  · cases hr

/-! ## Terms -/

/-- A word that a query can look up: it is not empty, has no white space and no parenthesis, is in
lower case, and does not start with an operator word that ends there. -/
structure IsTerm (w : Text) : Prop where
  ne_nil : w ≠ []
  unbroken : Unbroken w
  lower : Text.lower w = w
  no_operator : ∀ k ∈ [['a', 'n', 'd'], ['o', 'r'], ['n', 'o', 't']], ∀ r, w = k ++ r →
    atBoundary r = false

theorem IsTerm.leadingOperator? (h : IsTerm w) : leadingOperator? w = none := by
  refine leadingOperator?_eq_none_iff.mpr fun k hk r hr => ?_
  have hplain := fun x hx => (isPlain_of_mem_operatorWords k hk x hx).1
  have hword : k.1 ∈ [['a', 'n', 'd'], ['o', 'r'], ['n', 'o', 't']] := List.mem_map_of_mem hk
  have hspell := eq_append_of_dropWord? hplain (Text.lower_eq_self_iff.mp h.lower) hr
  exact h.no_operator k.1 hword r hspell

/-- **A term is read as itself.** -/
theorem tokenize_of_isTerm (h : IsTerm w) : tokenize w = [.term w] := by
  rw [tokenize_of_unbroken h.ne_nil h.unbroken, Lexeme.tokens, h.leadingOperator?, h.lower]

/-- A run without an operator word at its start is a term when it is lower-cased. -/
theorem isTerm_lower (hne : t ≠ []) (h : Unbroken t) (hop : leadingOperator? t = none) :
    IsTerm (Text.lower t) := by
  refine ⟨fun hnil => hne (Text.lower_eq_nil_iff.mp hnil), h.lower, Text.lower_lower t, ?_⟩
  intro k hk r hr
  obtain ⟨⟨_, op⟩, hmem, rfl⟩ := List.mem_map.mp (show k ∈ operatorWords.map Prod.fst from hk)
  have hspell := isPlain_of_mem_operatorWords _ hmem
  have hdrop := dropWord?_append (fun x hx => (hspell x hx).2) r
  rw [← hr] at hdrop
  obtain ⟨s, b, hs, rfl⟩ := dropWord?_lowerAfter (fun x hx => (hspell x hx).1) hdrop
  have hbound : atBoundary s = false := leadingOperator?_eq_none_iff.mp hop _ hmem s hs
  rw [Bool.eq_false_iff]
  intro hb
  exact absurd (atBoundary_of_lowerAfter hb) (by simp [hbound])

/-- **Every word that is read as a term is one.** -/
theorem isTerm_of_mem_tokenize (h : Token.term w ∈ tokenize q) : IsTerm w := by
  obtain ⟨l, hl, hw⟩ := List.mem_flatMap.mp h
  have hpart := isPart_of_mem_lexemes hl
  match l with
  | .paren p =>
    rcases List.mem_singleton.mp hw with rfl
    rcases hpart with hp | hp <;> cases hp
  | .run t =>
    obtain ⟨hne, hub⟩ := hpart
    rw [Lexeme.tokens] at hw
    split at hw
    · rename_i op hop
      obtain ⟨k, hk, rfl, -⟩ := exists_of_leadingOperator? hop
      exact absurd (List.mem_singleton.mp hw).symm (ne_term_of_mem_operatorWords k hk w)
    · rename_i op rest hrest hop
      obtain ⟨k, hk, rfl, hdrop, hb⟩ := exists_of_leadingOperator? hop
      rcases List.mem_cons.mp hw with hw | hw
      · exact absurd hw.symm (ne_term_of_mem_operatorWords k hk w)
      · obtain rfl := Token.term.inj (List.mem_singleton.mp hw)
        have hub' : Unbroken rest := fun x hx => hub x (mem_of_dropWord? hdrop hx)
        exact isTerm_lower hrest hub' (leadingOperator?_of_atBoundary hrest hb)
    · rename_i hop
      obtain rfl := Token.term.inj (List.mem_singleton.mp hw)
      exact isTerm_lower hne hub hop

end Concordance.Query

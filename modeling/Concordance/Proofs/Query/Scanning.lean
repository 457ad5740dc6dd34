import Concordance.Proofs.Query.LexicalRule
import Concordance.Proofs.Text.Boundaries
import Concordance.Proofs.Text.Trimming
import Concordance.Query.Scan

/-!
# Passes over a query

Each pass over a query reads one of its lexemes. What it takes are ends of parts of the text that is
unread: a parenthesis, which is one byte, a run, and the word at the start of a run, which is looked
at only if there is a boundary after it. So no slice is a fault, whatever characters the query has,
and what is left unread is shorter after each pass.

White space and parentheses are what cuts a query: at any other character something is read across
it.

A pass is one turn of the loop of `tokenize`.

* `operatorOf?_eq`: the operator of a run is found without a fault.
* **`pass_cases`**: what one pass does. **`passes_eq`**: what a number of passes read.
* **`passes_safe`**: reading a query has no fault and comes to an end.
* **`tokenize_append_iff`**: the characters that cut every query, and what they are read as.
-/

namespace Concordance.Query

open Text (isSpace SliceFault bytes)

variable {a t run word rest : Text} {c : Char} {p : Token}

/-! ## The operator of a run -/

theorem utf8Size_toLower (c : Char) : c.toLower.utf8Size = c.utf8Size :=
  Text.apply_toLower Char.utf8Size (by decide) c

/-- Small letters take as many bytes as capitals. -/
theorem length_bytes_map_toLower (t : Text) :
    (bytes (t.map Char.toLower)).length = (bytes t).length := by
  induction t with
  | nil => rfl
  | cons c t ih =>
    rw [List.map_cons, Text.length_bytes_cons, Text.length_bytes_cons, ih, utf8Size_toLower]

/-- A word is dropped from a run where the bytes of the run are cut after those of the word. -/
theorem dropWord?_eq_some_iff_splitAt? : dropWord? word run = some rest ↔
    ∃ head, Text.splitAt? run (bytes word).length = some (head, rest) ∧
      head.map Char.toLower = word := by
  rw [dropWord?_eq_some_iff]
  refine exists_congr fun head => ?_
  rw [Text.splitAt?_eq_some_iff]
  constructor
  · rintro ⟨rfl, rfl⟩
    exact ⟨⟨rfl, (length_bytes_map_toLower head).symm⟩, rfl⟩
  · rintro ⟨⟨rfl, -⟩, rfl⟩
    exact ⟨rfl, rfl⟩

theorem afterWord?_eq (run word : Text) :
    afterWord? run word = .ok ((dropWord? word run).filter atBoundary) := by
  unfold afterWord?
  dsimp only
  cases hcut : Text.splitAt? run (bytes word).length with
  | none =>
    have hdrop : dropWord? word run = none := by
      rw [Option.eq_none_iff_forall_ne_some]
      rintro rest hdrop
      obtain ⟨head, hhead, -⟩ := dropWord?_eq_some_iff_splitAt?.mp hdrop
      rw [hcut] at hhead
      cases hhead
    rw [hdrop]
    rfl
  | some parts =>
    obtain ⟨head, rest⟩ := parts
    have hsplit : Text.splitAt run (bytes word).length = .ok (head, rest) := by
      rw [Text.splitAt, hcut]
    rw [hsplit]
    change Except.ok (if head.map Char.toLower = word && atBoundary rest then some rest else none) =
      .ok ((dropWord? word run).filter atBoundary)
    by_cases hword : head.map Char.toLower = word
    · have hdrop := dropWord?_eq_some_iff_splitAt?.mpr ⟨head, hcut, hword⟩
      rw [hdrop, Option.filter_some]
      simp only [hword, decide_true, Bool.true_and]
    · have hdrop : dropWord? word run = none := by
        refine Option.eq_none_iff_forall_ne_some.mpr fun rest' hdrop => ?_
        obtain ⟨head', hhead, hword'⟩ := dropWord?_eq_some_iff_splitAt?.mp hdrop
        rw [hcut] at hhead
        cases hhead
        exact hword hword'
      rw [hdrop]
      simp only [hword, decide_false, Bool.false_and, Bool.false_eq_true, if_false,
        Option.filter_none]

/-- **The operator of a run is found without a fault.** -/
theorem operatorOf?_eq (run : Text) : operatorOf? run = .ok (leadingOperator? run) := by
  unfold operatorOf? leadingOperator?
  simp only [afterWord?_eq]
  exact List.findSomeM?_pure

theorem readRun_eq (run : Text) : readRun run = .ok (Lexeme.run run).tokens := by
  rw [readRun, operatorOf?_eq, Lexeme.tokens]
  cases leadingOperator? run with
  | none => rfl
  | some found =>
    obtain ⟨op, rest⟩ := found
    cases rest <;> rfl

/-! ## Passes -/

theorem lexemes_trimStart (t : Text) : lexemes (Text.trimStart t) = lexemes t := by
  induction t with
  | nil => rfl
  | cons c t ih =>
    cases hc : isSpace c with
    | true =>
      rw [lexemes_cons_space hc, ← ih, Text.trimStart, Text.trimStart,
        List.dropWhile_cons_of_pos hc]
    | false => rw [Text.trimStart, List.dropWhile_cons_of_neg (by simp [hc])]

/-- A parenthesis is one byte. -/
theorem length_bytes_paren (hc : parenToken? c = some p) : (bytes [c]).length = 1 := by
  unfold parenToken? at hc
  split at hc
  · subst c
    rfl
  · split at hc
    · subst c
      rfl
    · cases hc

/-- **What one pass does**: it comes to the end of the query, or it reads the first lexeme. -/
theorem pass_cases (t : Text) : (pass t = .ok none ∧ lexemes t = []) ∨
    ∃ l rest, pass t = .ok (some (l.tokens, rest)) ∧ lexemes t = l :: lexemes rest ∧
      rest <:+ t ∧ rest.length < t.length := by
  have hsuffix : Text.trimStart t <:+ t := List.dropWhile_suffix isSpace
  have hlexemes := lexemes_trimStart t
  have hfirst : ∀ c, (Text.trimStart t).head? = some c → isSpace c = false :=
    fun c hc => Text.isSpace_of_head?_dropWhile hc
  unfold pass
  dsimp only
  generalize Text.trimStart t = start at *
  cases start with
  | nil => exact .inl ⟨rfl, hlexemes.symm⟩
  | cons c r =>
    refine .inr ?_
    dsimp only [List.head?_cons]
    cases hp : parenToken? c with
    | some p =>
      have hcut : Text.splitAt (c :: r) 1 = .ok ([c], r) := by
        rw [← length_bytes_paren hp]
        exact Text.splitAt_append [c] r
      refine ⟨.paren p, r, ?_, ?_, (List.suffix_cons c r).trans hsuffix, hsuffix.length_le⟩
      · simp only [hcut]
        rfl
      · rw [← hlexemes, lexemes_cons_paren hp]
    | none =>
      have hc : inRun c = true := inRun_iff.mpr ⟨hfirst c rfl, parenToken?_eq_none_iff.mp hp⟩
      have hplace : (Text.findByte? endsRun (c :: r)).getD (bytes (c :: r)).length =
          (bytes ((c :: r).takeWhile inRun)).length := Text.getD_findByte? endsRun (c :: r)
      have hparts := List.takeWhile_append_dropWhile (p := inRun) (l := c :: r)
      have hcut := Text.splitAt_append ((c :: r).takeWhile inRun) ((c :: r).dropWhile inRun)
      rw [hparts] at hcut
      obtain ⟨hne, hrun, hend, hshorter⟩ := takeWhile_inRun hc r
      refine ⟨.run ((c :: r).takeWhile inRun), (c :: r).dropWhile inRun, ?_, ?_,
        (List.dropWhile_suffix inRun).trans hsuffix, Nat.lt_of_lt_of_le hshorter hsuffix.length_le⟩
      · simp only [hplace, hcut, bind, Except.bind, readRun_eq]
        rfl
      · rw [← lexemes_run_append hne hrun hend, hparts, hlexemes]

/-- **What a number of passes read**: the tokens of the query, if there are more passes than
lexemes. -/
theorem passes_eq (n : Nat) (t : Text) :
    passes n t = .ok (if (lexemes t).length < n then some (tokenize t) else none) := by
  induction n generalizing t with
  | zero => rfl
  | succ n ih =>
    rcases pass_cases t with ⟨hpass, hlexemes⟩ | ⟨l, rest, hpass, hlexemes, -, -⟩
    · rw [passes, hpass, tokenize, hlexemes]
      rfl
    · rw [passes, hpass, tokenize, hlexemes]
      simp only [bind, Except.bind, ih, List.length_cons, Nat.add_lt_add_iff_right,
        List.flatMap_cons]
      split <;> rfl

/-- A query has no more lexemes than characters. -/
theorem length_lexemesFrom_le (run q : Text) :
    (lexemesFrom run q).length ≤ q.length + (endRun run).length := by
  have hend (run : Text) : (endRun run).length ≤ 1 := by
    unfold endRun
    split <;> simp
  induction q generalizing run with
  | nil => exact Nat.le_add_left _ _
  | cons c q ih =>
    have hnone := ih []
    have hmore := ih (c :: run)
    have hone := hend (c :: run)
    rw [endRun, List.isEmpty_nil, if_pos rfl, List.length_nil, Nat.add_zero] at hnone
    rw [lexemesFrom]
    split
    · rw [List.length_append, List.length_cons]
      omega
    · split
      · rw [List.length_append, List.length_cons, List.length_cons]
        omega
      · rw [List.length_cons]
        omega

theorem length_bytes_lt (hsuffix : a <:+ t) (hlength : a.length < t.length) :
    (bytes a).length < (bytes t).length := by
  obtain ⟨b, rfl⟩ := hsuffix
  rw [List.length_append] at hlength
  obtain ⟨c, b, rfl⟩ := List.exists_cons_of_length_pos (l := b) (by omega)
  have hpos := c.utf8Size_pos
  rw [List.cons_append, Text.length_bytes_cons, Text.bytes_append, List.length_append]
  omega

/-- **Reading a query has no fault and comes to an end.** Whatever is unread, a pass takes slices at
boundaries only, and what it leaves is a shorter end of what was unread, in bytes and in characters.
The passes over a query are one for each of its lexemes and one that meets its end, so no more than
it has characters and one, and what they read are the tokens of the query. -/
theorem passes_safe (q : Text) :
    (∀ t, ∃ result, pass t = .ok result ∧ ∀ ts rest, result = some (ts, rest) →
      rest <:+ t ∧ rest.length < t.length ∧ (bytes rest).length < (bytes t).length) ∧
      passes (q.length + 1) q = .ok (some (tokenize q)) ∧
      ∀ n, passes n q = .ok (if (lexemes q).length < n then some (tokenize q) else none) := by
  have hlexemes : (lexemes q).length < q.length + 1 :=
    Nat.lt_succ_of_le (length_lexemesFrom_le [] q)
  refine ⟨fun t => ?_, ?_, fun n => passes_eq n q⟩
  · rcases pass_cases t with ⟨hpass, -⟩ | ⟨l, rest, hpass, -, hsuffix, hlength⟩
    · exact ⟨none, hpass, nofun⟩
    · refine ⟨_, hpass, ?_⟩
      rintro ts rest ⟨⟩
      exact ⟨hsuffix, hlength, length_bytes_lt hsuffix hlength⟩
  · rw [passes_eq, if_pos hlexemes]

/-! ## Characters that cut a query -/

/-- A run that starts with no letter of an operator word is one term. -/
theorem tokenize_of_head_x (h : Unbroken t) :
    tokenize ('x' :: t) = [.term (Text.lower ('x' :: t))] := by
  have hrun : Unbroken ('x' :: t) := List.forall_mem_cons.mpr ⟨by decide, h⟩
  have hnone : leadingOperator? ('x' :: t) = none := by
    refine leadingOperator?_eq_none_iff.mpr fun k hk r hr => ?_
    simp only [operatorWords, List.mem_cons, List.not_mem_nil, or_false] at hk
    rcases hk with rfl | rfl | rfl <;> cases hr
  rw [tokenize_of_unbroken (List.cons_ne_nil 'x' t) hrun, Lexeme.tokens, hnone]

/-- **The characters that cut a query**, whatever is on both sides of them, are white space, which
is read as nothing, and the parentheses, each of which is read as its token. -/
theorem tokenize_append_iff (c : Char) (ts : List Token) :
    (∀ a b, tokenize (a ++ c :: b) = tokenize a ++ ts ++ tokenize b) ↔
      isSpace c = true ∧ ts = [] ∨ c = '(' ∧ ts = [.lparen] ∨ c = ')' ∧ ts = [.rparen] := by
  constructor
  · intro h
    have halone : tokenize [c] = ts := by
      have hnil : tokenize [] = [] := rfl
      have hcut := h [] []
      rwa [List.nil_append, hnil, List.nil_append, List.append_nil] at hcut
    by_cases hspace : isSpace c = true
    · rw [tokenize_cons_space hspace] at halone
      exact .inl ⟨hspace, halone.symm⟩
    by_cases hopen : c = '('
    · subst hopen
      exact .inr (.inl ⟨rfl, halone.symm⟩)
    by_cases hclose : c = ')'
    · subst hclose
      exact .inr (.inr ⟨rfl, halone.symm⟩)
    -- Between two letters any other character is in the middle of a run.
    have hc : isSpace c = false ∧ c ≠ '(' ∧ c ≠ ')' := ⟨by simpa using hspace, hopen, hclose⟩
    have hx : isSpace 'x' = false ∧ 'x' ≠ '(' ∧ 'x' ≠ ')' := by decide
    have hrun : Unbroken [c, 'x'] := by
      rintro d (_ | ⟨_, _ | ⟨_, hd⟩⟩)
      · exact hc
      · exact hx
      · exact absurd hd List.not_mem_nil
    have hcut := congrArg List.length (h ['x'] ['x'])
    rw [List.singleton_append, tokenize_of_head_x hrun, tokenize_of_head_x unbroken_nil] at hcut
    simp only [List.length_append, List.length_cons, List.length_nil] at hcut
    omega
  · rintro (⟨hc, rfl⟩ | ⟨rfl, rfl⟩ | ⟨rfl, rfl⟩) a b
    · rw [tokenize_append_space a b hc, List.append_nil]
    · rw [tokenize_append_paren a b (p := .lparen) rfl, List.append_assoc, List.singleton_append]
    · rw [tokenize_append_paren a b (p := .rparen) rfl, List.append_assoc, List.singleton_append]

end Concordance.Query

import Concordance.Query.Canonical
import Concordance.Query.Grammar
import Concordance.Proofs.Query.Readings

/-!
# Reading loses no token

Reading never fails, so it has to be said what becomes of tokens that fit nowhere. What is read and
what is left are together what was given, and the tree spells what is read but for closing
parentheses that are missing at its end. These are missing at the end alone: where a group ends at
some other token than its parenthesis, that token goes on with nothing around the group either, so
every group and every operand around it ends at the same place (`Quits`).

Reading is `parse`.

* **`ReadsDisjunction.takes`**: what a reading takes is what its tree spells, in this sense.
* **`ReadsDisjunction.isCanonical`**: its tree has the shape that the grammar gives.
* **`ReadsDisjunction.cut`**: tokens that it leaves have no influence on it.
* **`parse_lossless`**: the three together, for every list of tokens.
-/

namespace Concordance.Query

open Concordance.Query.Expr (flattenAll flattenMore)

variable {ts us vs rest fl : List Token} {t : Token}

/-! ## What is taken -/

/-- No loop and no group goes on with the next token. -/
def Quits (ts : List Token) : Prop :=
  ∀ t, ts.head? = some t → t ≠ .and ∧ t ≠ .or ∧ t ≠ .rparen

theorem not_quits_and : ¬ Quits (.and :: us) := fun h => (h .and rfl).1 rfl

theorem not_quits_or : ¬ Quits (.or :: us) := fun h => (h .or rfl).2.1 rfl

theorem not_quits_rparen : ¬ Quits (.rparen :: us) := fun h => (h .rparen rfl).2.2 rfl

/-- What is taken from tokens is a list, but for closing parentheses that are missing at its end;
they are missing only where nothing goes on. -/
def Takes (ts us fl : List Token) : Prop :=
  ∃ c k, ts = c ++ us ∧ fl = c ++ List.replicate k .rparen ∧ (k ≠ 0 → Quits us)

theorem Takes.none (us : List Token) : Takes us us [] := ⟨[], 0, rfl, rfl, fun h => absurd rfl h⟩

theorem Takes.prepend (h : Takes ts us fl) (cs : List Token) : Takes (cs ++ ts) us (cs ++ fl) := by
  obtain ⟨c, k, rfl, rfl, hq⟩ := h
  exact ⟨cs ++ c, k, (List.append_assoc ..).symm, (List.append_assoc ..).symm, hq⟩

/-- What is left comes last in what was given. -/
theorem Takes.isSuffix (h : Takes ts us fl) : us <:+ ts := by
  obtain ⟨c, k, rfl, -, -⟩ := h
  exact List.suffix_append c us

/-- Nothing is missing before a token with which something goes on. -/
theorem Takes.exact (h : Takes ts us fl) (hus : ¬ Quits us) : ts = fl ++ us := by
  obtain ⟨c, k, rfl, rfl, hq⟩ := h
  obtain rfl : k = 0 := Decidable.not_not.mp fun hk => hus (hq hk)
  rw [List.replicate_zero, List.append_nil]

theorem dropClose_of_head?_ne (h : us.head? ≠ some .rparen) : dropClose us = us := by
  match us with
  | [] | .term _ :: _ | .and :: _ | .or :: _ | .not :: _ | .lparen :: _ => rfl
  | .rparen :: _ => exact absurd rfl h

theorem dropClose_isSuffix (us : List Token) : dropClose us <:+ us := by
  by_cases hc : us.head? = some .rparen
  · obtain ⟨r, rfl⟩ := List.head?_eq_some_iff.mp hc
    exact List.suffix_cons ..
  · exact ⟨[], dropClose_of_head?_ne hc⟩

/-- One more parenthesis is missing after a group that does not end with its own. -/
theorem Takes.close (h : Takes ts us fl) (hand : us.head? ≠ some .and) (hor : us.head? ≠ some .or) :
    Takes ts (dropClose us) (fl ++ [.rparen]) := by
  by_cases hc : us.head? = some .rparen
  · obtain ⟨r, rfl⟩ := List.head?_eq_some_iff.mp hc
    rw [h.exact not_quits_rparen]
    exact ((Takes.none r).prepend [.rparen]).prepend fl
  · obtain ⟨c, k, rfl, rfl, hq⟩ := h
    rw [dropClose_of_head?_ne hc]
    refine ⟨c, k + 1, rfl, ?_, fun _ t ht => ⟨?_, ?_, ?_⟩⟩
    · rw [List.replicate_succ', List.append_assoc]
    · exact fun e => hand (e ▸ ht)
    · exact fun e => hor (e ▸ ht)
    · exact fun e => hc (e ▸ ht)

/-! ## What a reading takes -/

theorem ReadsPrimaries.ne_nil {room : Option Nat} {ts us : List Token} {es : List Expr}
    (h : ReadsPrimaries room ts es us) : es ≠ [] := by
  cases h <;> simp

theorem ReadsConjunctions.ne_nil {room : Option Nat} {ts us : List Token} {es : List Expr}
    (h : ReadsConjunctions room ts es us) : es ≠ [] := by
  cases h <;> simp

mutual

/-- A conjunction goes on with every `AND`. -/
theorem ReadsPrimaries.head?_ne {room : Option Nat} {ts us : List Token} {es : List Expr} :
    ReadsPrimaries room ts es us → us.head? ≠ some .and
  | .one _ hs => hs
  | .more _ hs => hs.head?_ne

/-- A disjunction goes on with every operator. -/
theorem ReadsConjunctions.head?_ne {room : Option Nat} {ts us : List Token} {es : List Expr} :
    ReadsConjunctions room ts es us → us.head? ≠ some .and ∧ us.head? ≠ some .or
  | .one h hs => ⟨h.head?_ne, hs⟩
  | .more _ hs => hs.head?_ne

theorem ReadsDisjunction.head?_ne {room : Option Nat} {ts us : List Token} {e : Expr} :
    ReadsDisjunction room ts e us → us.head? ≠ some .and ∧ us.head? ≠ some .or
  | .of h => h.head?_ne

end

mutual

theorem ReadsPrimary.takes {room : Option Nat} {ts us : List Token} {e : Expr} :
    ReadsPrimary room ts e us → Takes ts us e.flatten
  | .term _ w ts => (Takes.none ts).prepend [.term w]
  | .group _ h => (h.takes.close h.head?_ne.1 h.head?_ne.2).prepend [.lparen]
  | .not _ h => h.takes.prepend [.not]
  | .empty _ => .none _

theorem ReadsPrimaries.takes {room : Option Nat} {ts us : List Token} {es : List Expr} :
    ReadsPrimaries room ts es us → Takes ts us (flattenAll .and es)
  | .one h _ => by
    rw [flattenAll, flattenMore, List.append_nil]
    exact h.takes
  | .more h hs => by
    rw [flattenAll_cons _ _ hs.ne_nil]
    rw [h.takes.exact not_quits_and]
    exact (hs.takes.prepend [.and]).prepend _

theorem ReadsConjunctions.takes {room : Option Nat} {ts us : List Token} {es : List Expr} :
    ReadsConjunctions room ts es us → Takes ts us (flattenAll .or es)
  | .one h _ => by
    rw [flattenAll, flattenMore, List.append_nil, flatten_conj]
    exact h.takes
  | .more h hs => by
    rw [flattenAll_cons _ _ hs.ne_nil, flatten_conj]
    rw [h.takes.exact not_quits_or]
    exact (hs.takes.prepend [.or]).prepend _

/-- **A reading takes what its tree spells**, but for parentheses that are missing at the end. -/
theorem ReadsDisjunction.takes {room : Option Nat} {ts us : List Token} {e : Expr} :
    ReadsDisjunction room ts e us → Takes ts us e.flatten
  | .of h => by
    rw [flatten_disj]
    exact h.takes

end

/-! ## The shape of its tree -/

mutual

theorem ReadsPrimary.isCanonical {room : Option Nat} {ts us : List Token} {e : Expr} :
    ReadsPrimary room ts e us → e.isPrimary = true ∧ e.isCanonical = true
  | .term _ _ _ => ⟨rfl, rfl⟩
  | .group _ h => ⟨rfl, by rw [Expr.isCanonical, h.isCanonical]⟩
  | .not _ h => ⟨rfl, by rw [Expr.isCanonical, h.isCanonical.1, h.isCanonical.2]; rfl⟩
  | .empty _ => ⟨rfl, rfl⟩

theorem ReadsPrimaries.isCanonical {room : Option Nat} {ts us : List Token} {es : List Expr} :
    ReadsPrimaries room ts es us → ∀ e ∈ es, e.isPrimary = true ∧ e.isCanonical = true
  | .one h _ => by simpa using h.isCanonical
  | .more h hs => List.forall_mem_cons.mpr ⟨h.isCanonical, hs.isCanonical⟩

theorem ReadsConjunctions.isCanonical {room : Option Nat} {ts us : List Token} {es : List Expr} :
    ReadsConjunctions room ts es us → ∀ e ∈ es, e.isOr = false ∧ e.isCanonical = true
  | .one h _ => by simpa using (Expr.canonical_conj h.ne_nil h.isCanonical).symm
  | .more h hs =>
    List.forall_mem_cons.mpr ⟨(Expr.canonical_conj h.ne_nil h.isCanonical).symm, hs.isCanonical⟩

/-- **The tree of a reading has the shape that the grammar gives.** -/
theorem ReadsDisjunction.isCanonical {room : Option Nat} {ts us : List Token} {e : Expr} :
    ReadsDisjunction room ts e us → e.isCanonical = true
  | .of h => Expr.canonical_disj h.ne_nil h.isCanonical

end

/-! ## What has no influence on it -/

theorem head?_append_of_head? (h : us.head? = some t) : (us ++ rest).head? = some t := by
  rw [List.head?_append, h]
  rfl

/-- Tokens after a group's parenthesis, or after its missing parenthesis, can be cut off. -/
theorem exists_of_dropClose_eq_append (h : dropClose us = vs ++ rest) :
    ∃ us', us = us' ++ rest ∧ dropClose us' = vs := by
  by_cases hc : us.head? = some .rparen
  · obtain ⟨r, rfl⟩ := List.head?_eq_some_iff.mp hc
    exact ⟨.rparen :: vs, congrArg _ h, rfl⟩
  · rw [dropClose_of_head?_ne hc] at h
    subst h
    exact ⟨vs, rfl, dropClose_of_head?_ne fun e => hc (head?_append_of_head? e)⟩

mutual

theorem ReadsPrimary.cut {room : Option Nat} {ts us : List Token} {e : Expr} :
    ReadsPrimary room ts e us → ∀ vs rest, us = vs ++ rest →
      ∃ ts', ts = ts' ++ rest ∧ ReadsPrimary room ts' e vs
  | .term _ w _ => fun vs _ hus => ⟨.term w :: vs, congrArg _ hus, .term _ w vs⟩
  | .group hr h => by
    intro vs rest hus
    obtain ⟨us', hus', rfl⟩ := exists_of_dropClose_eq_append hus
    obtain ⟨ts', rfl, h'⟩ := h.cut us' rest hus'
    exact ⟨.lparen :: ts', rfl, .group hr h'⟩
  | .not hr h => by
    intro vs rest hus
    obtain ⟨ts', rfl, h'⟩ := h.cut vs rest hus
    exact ⟨.not :: ts', rfl, .not hr h'⟩
  | .empty h => fun vs _ hus =>
    ⟨vs, hus, .empty fun t ht => h t (hus ▸ head?_append_of_head? ht)⟩

theorem ReadsPrimaries.cut {room : Option Nat} {ts us : List Token} {es : List Expr} :
    ReadsPrimaries room ts es us → ∀ vs rest, us = vs ++ rest →
      ∃ ts', ts = ts' ++ rest ∧ ReadsPrimaries room ts' es vs
  | .one h hs => by
    intro vs rest hus
    obtain ⟨ts', rfl, h'⟩ := h.cut vs rest hus
    exact ⟨ts', rfl, .one h' fun e => hs (hus ▸ head?_append_of_head? e)⟩
  | .more h hs => by
    intro vs rest hus
    obtain ⟨us', hus', hs'⟩ := hs.cut vs rest hus
    obtain ⟨ts', rfl, h'⟩ := h.cut (.and :: us') rest (congrArg _ hus')
    exact ⟨ts', rfl, .more h' hs'⟩

theorem ReadsConjunctions.cut {room : Option Nat} {ts us : List Token} {es : List Expr} :
    ReadsConjunctions room ts es us → ∀ vs rest, us = vs ++ rest →
      ∃ ts', ts = ts' ++ rest ∧ ReadsConjunctions room ts' es vs
  | .one h hs => by
    intro vs rest hus
    obtain ⟨ts', rfl, h'⟩ := h.cut vs rest hus
    exact ⟨ts', rfl, .one h' fun e => hs (hus ▸ head?_append_of_head? e)⟩
  | .more h hs => by
    intro vs rest hus
    obtain ⟨us', hus', hs'⟩ := hs.cut vs rest hus
    obtain ⟨ts', rfl, h'⟩ := h.cut (.or :: us') rest (congrArg _ hus')
    exact ⟨ts', rfl, .more h' hs'⟩

/-- **Tokens that a reading leaves have no influence on it**: any of them at the end can be cut
off. -/
theorem ReadsDisjunction.cut {room : Option Nat} {ts us : List Token} {e : Expr} :
    ReadsDisjunction room ts e us → ∀ vs rest, us = vs ++ rest →
      ∃ ts', ts = ts' ++ rest ∧ ReadsDisjunction room ts' e vs
  | .of h => by
    intro vs rest hus
    obtain ⟨ts', rfl, h'⟩ := h.cut vs rest hus
    exact ⟨ts', rfl, .of h'⟩

end

/-! ## Every list of tokens -/

/-- Where nothing goes on, no token is left or the next one starts a primary. -/
theorem Quits.head?_cases (h : Quits us) :
    us = [] ∨ (∃ w, us.head? = some (.term w)) ∨ us.head? = some .lparen ∨ us.head? = some .not := by
  match us with
  | [] | .term _ :: _ | .lparen :: _ | .not :: _ => simp
  | .and :: _ => exact absurd h not_quits_and
  | .or :: _ => exact absurd h not_quits_or
  | .rparen :: _ => exact absurd h not_quits_rparen

/-- **Reading loses no token.** What is consumed and what is trailing are what was given. The tree
spells what is consumed but for closing parentheses, which are missing only where nothing goes on;
it has the shape that the grammar gives, and reading what is consumed gives it again. -/
theorem parse_lossless (ts : List Token) :
    ∃ consumed k, ts = consumed ++ (parse ts).trailing ∧
      (parse ts).expr.flatten = consumed ++ List.replicate k .rparen ∧
      (parse ts).trailing.head? ≠ some .and ∧ (parse ts).trailing.head? ≠ some .or ∧
      (0 < k → (parse ts).trailing = [] ∨ (∃ w, (parse ts).trailing.head? = some (.term w)) ∨
        (parse ts).trailing.head? = some .lparen ∨ (parse ts).trailing.head? = some .not) ∧
      ((parse ts).trailing.head? = some .rparen → k = 0) ∧
      (parse ts).expr.isCanonical = true ∧
      parse consumed = ⟨(parse ts).expr, []⟩ := by
  have hread := parse_reads ts
  obtain ⟨c, k, hts, hfl, hq⟩ := hread.takes
  obtain ⟨hand, hor⟩ := hread.head?_ne
  refine ⟨c, k, hts, hfl, hand, hor, fun hk => (hq (Nat.ne_of_gt hk)).head?_cases, fun hr => ?_,
    hread.isCanonical, ?_⟩
  · exact Decidable.not_not.mp fun hk => (hq hk .rparen hr).2.2 rfl
  · obtain ⟨c', hts', hcut⟩ := hread.cut [] _ (List.nil_append _).symm
    obtain rfl : c = c' := List.append_cancel_right (hts.symm.trans hts')
    exact hcut.parseWithin_eq

end Concordance.Query

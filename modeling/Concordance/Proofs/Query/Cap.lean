import Concordance.Proofs.Query.Canonical

/-!
# The cap on nesting

Reading without a cap opens a level at every parenthesis and `NOT` that it takes.
`OpensConjunctions` says at which tokens it opens which level, rule by rule along the reading.

A reader with a cap agrees with it up to the first token that would open a level too many. There the
innermost primary is missing, and since no operator and no closing parenthesis comes next, nothing
around it goes on either: every group and every operand ends at that token, as if nothing came after
it. So a capped reading is an uncapped one, or it leaves a token that opens a level too many
(`ReadsDisjunction.uncapped_or_opens`), and then it leaves every such token
(`ReadsDisjunction.suffix_of_opens`).

The cap is `MAX_NESTING`.

* **`Expr.height_le`**: a canonical tree has three nodes at most to each level, and three more.
* **`parse_capped`**: the cap changes nothing but where a level too many is opened, and there it
  acts as the end of the tokens.
-/

namespace Concordance.Query

open Concordance.Query.Expr (nestingAll heightAll allCanonical allCanonical_cons isCanonical_and
  isCanonical_or isCanonical_not)

variable {n : Nat} {room room' : Option Nat} {ts us vs : List Token} {t : Token} {e f : Expr}
  {es fs : List Expr}

/-! ## The levels that reading opens -/

mutual

/-- Reading a primary without a cap opens a level where so many tokens are left. Levels are counted
from 1, the level of a parenthesis or `NOT` that stands inside no other. -/
inductive OpensPrimary : Nat → List Token → List Token → Prop
  | group (ts : List Token) : OpensPrimary 1 (.lparen :: ts) (.lparen :: ts)
  | not (ts : List Token) : OpensPrimary 1 (.not :: ts) (.not :: ts)
  | inGroup {n : Nat} {ts vs : List Token} (h : OpensConjunctions n ts vs) :
    OpensPrimary (n + 1) (.lparen :: ts) vs
  | inNot {n : Nat} {ts vs : List Token} (h : OpensPrimary n ts vs) :
    OpensPrimary (n + 1) (.not :: ts) vs

/-- Reading primaries opens a level in the first of them or in those after its `AND`. -/
inductive OpensPrimaries : Nat → List Token → List Token → Prop
  | first {n : Nat} {ts vs : List Token} (h : OpensPrimary n ts vs) : OpensPrimaries n ts vs
  | later {n : Nat} {ts us vs : List Token} {e : Expr} (h : ReadsPrimary none ts e (.and :: us))
    (hs : OpensPrimaries n us vs) : OpensPrimaries n ts vs

/-- Reading conjunctions opens a level in the first of them or in those after its `OR`. -/
inductive OpensConjunctions : Nat → List Token → List Token → Prop
  | first {n : Nat} {ts vs : List Token} (h : OpensPrimaries n ts vs) : OpensConjunctions n ts vs
  | later {n : Nat} {ts us vs : List Token} {es : List Expr}
    (h : ReadsPrimaries none ts es (.or :: us)) (hs : OpensConjunctions n us vs) :
    OpensConjunctions n ts vs

end

/-- Reading tokens without a cap opens a level at one of them, given by its position. -/
def OpensAt (n : Nat) (ts : List Token) (p : Nat) : Prop := OpensConjunctions n ts (ts.drop p)

/-- The next token is one that opens a level. -/
def Opener (ts : List Token) : Prop := ts.head? = some .lparen ∨ ts.head? = some .not

theorem Opener.head?_ne (h : Opener us) (hl : t ≠ .lparen) (hn : t ≠ .not) :
    us.head? ≠ some t := by
  intro ht
  rcases h with h | h <;> rw [h] at ht
  · exact hl (Option.some.inj ht).symm
  · exact hn (Option.some.inj ht).symm

theorem Opener.dropClose_eq (h : Opener us) : dropClose us = us :=
  dropClose_of_head?_ne (h.head?_ne (by simp) (by simp))

mutual

theorem OpensPrimary.opener {n : Nat} {ts vs : List Token} : OpensPrimary n ts vs → Opener vs
  | .group _ => .inl rfl
  | .not _ => .inr rfl
  | .inGroup h => h.opener
  | .inNot h => h.opener

theorem OpensPrimaries.opener {n : Nat} {ts vs : List Token} : OpensPrimaries n ts vs → Opener vs
  | .first h => h.opener
  | .later _ hs => hs.opener

theorem OpensConjunctions.opener {n : Nat} {ts vs : List Token} :
    OpensConjunctions n ts vs → Opener vs
  | .first h => h.opener
  | .later _ hs => hs.opener

end

/-! ### They are among the tokens that are taken -/

mutual

theorem OpensPrimary.isSuffix {n : Nat} {ts vs : List Token} : OpensPrimary n ts vs → vs <:+ ts
  | .group _ | .not _ => List.suffix_refl _
  | .inGroup h => h.isSuffix.trans (List.suffix_cons ..)
  | .inNot h => h.isSuffix.trans (List.suffix_cons ..)

theorem OpensPrimaries.isSuffix {n : Nat} {ts vs : List Token} :
    OpensPrimaries n ts vs → vs <:+ ts
  | .first h => h.isSuffix
  | .later h hs => (hs.isSuffix.trans (List.suffix_cons ..)).trans h.takes.isSuffix

theorem OpensConjunctions.isSuffix {n : Nat} {ts vs : List Token} :
    OpensConjunctions n ts vs → vs <:+ ts
  | .first h => h.isSuffix
  | .later h hs => (hs.isSuffix.trans (List.suffix_cons ..)).trans h.takes.isSuffix

end

/-- What is left after an operator is left before it. -/
theorem isSuffix_of_cons (h : t :: us <:+ vs) (hs : ts <:+ us) : ts <:+ vs :=
  (hs.trans (List.suffix_cons ..)).trans h

/-- Without a cap a parenthesis or `NOT` always starts a primary. -/
theorem Opener.canStart (h : Opener us) : ∃ t, us.head? = some t ∧ CanStart none t := by
  rcases h with h | h
  · exact ⟨.lparen, h, by simp [CanStart, inside?]⟩
  · exact ⟨.not, h, by simp [CanStart, inside?]⟩

theorem Opener.not_stop (h : Opener us) : ¬ ∀ t, us.head? = some t → ¬ CanStart none t := by
  obtain ⟨t, ht, hc⟩ := h.canStart
  exact fun hstop => hstop t ht hc

mutual

/-- A level that is opened is a level of the tree, and what is left comes after it. -/
theorem OpensPrimary.within {n : Nat} {ts us vs : List Token} {e : Expr} :
    OpensPrimary n ts vs → ReadsPrimary none ts e us → n ≤ e.nesting ∧ us <:+ vs
  | .group _, .group hr h => ⟨Nat.le_add_left .., (ReadsPrimary.group hr h).takes.isSuffix⟩
  | .not _, .not hr h => ⟨Nat.le_add_left .., (ReadsPrimary.not hr h).takes.isSuffix⟩
  | .inGroup ho, @ReadsPrimary.group _ none _ _ _ _ (.of h) => by
    rw [Expr.nesting, nesting_disj]
    exact ⟨Nat.succ_le_succ (ho.within h).1, (dropClose_isSuffix _).trans (ho.within h).2⟩
  | .inNot ho, @ReadsPrimary.not _ none _ _ _ _ h =>
    ⟨Nat.succ_le_succ (ho.within h).1, (ho.within h).2⟩
  | .group _, .empty hstop | .inGroup _, .empty hstop => absurd hstop (Opener.not_stop (.inl rfl))
  | .not _, .empty hstop | .inNot _, .empty hstop => absurd hstop (Opener.not_stop (.inr rfl))

theorem OpensPrimaries.within {n : Nat} {ts us vs : List Token} {es : List Expr} :
    OpensPrimaries n ts vs → ReadsPrimaries none ts es us → n ≤ nestingAll es ∧ us <:+ vs
  | .first ho, .one h _ => ⟨Nat.le_trans (ho.within h).1 (Nat.le_max_left ..), (ho.within h).2⟩
  | .first ho, .more h hs =>
    ⟨Nat.le_trans (ho.within h).1 (Nat.le_max_left ..),
      isSuffix_of_cons (ho.within h).2 hs.takes.isSuffix⟩
  -- reading is unique, so it cannot both go on with an `AND` and end without one
  | .later h _, .one h' hand => absurd (congrArg List.head? (h.unique h').2).symm hand
  | .later h ho, .more h' hs => by
    obtain ⟨-, hus⟩ := h.unique h'
    obtain ⟨hle, hsuf⟩ := ho.within ((List.cons.inj hus).2 ▸ hs)
    exact ⟨Nat.le_trans hle (Nat.le_max_right ..), hsuf⟩

theorem OpensConjunctions.within {n : Nat} {ts us vs : List Token} {es : List Expr} :
    OpensConjunctions n ts vs → ReadsConjunctions none ts es us → n ≤ nestingAll es ∧ us <:+ vs
  | .first ho, .one h _ => by
    rw [nestingAll, nesting_conj]
    exact ⟨Nat.le_trans (ho.within h).1 (Nat.le_max_left ..), (ho.within h).2⟩
  | .first ho, .more h hs => by
    rw [nestingAll, nesting_conj]
    exact ⟨Nat.le_trans (ho.within h).1 (Nat.le_max_left ..),
      isSuffix_of_cons (ho.within h).2 hs.takes.isSuffix⟩
  | .later h _, .one h' hor => absurd (congrArg List.head? (h.unique h').2).symm hor
  | .later h ho, .more h' hs => by
    obtain ⟨-, hus⟩ := h.unique h'
    obtain ⟨hle, hsuf⟩ := ho.within ((List.cons.inj hus).2 ▸ hs)
    exact ⟨Nat.le_trans hle (Nat.le_max_right ..), hsuf⟩

end

theorem OpensConjunctions.le_nesting (ho : OpensConjunctions n ts vs)
    (h : ReadsDisjunction none ts e us) : n ≤ e.nesting := by
  obtain ⟨h⟩ := h
  rw [nesting_disj]
  exact (ho.within h).1

/-! ## What the cap changes -/

/-- The first level for which there is no room. -/
def Beyond (room : Option Nat) (n : Nat) : Prop := ∃ m, room = some m ∧ n = m + 1

theorem beyond_inside (hr : inside? room = some room') : Beyond room (n + 1) ↔ Beyond room' n := by
  match room with
  | none =>
    obtain rfl : none = room' := Option.some.inj hr
    simp [Beyond]
  | some 0 => cases hr
  | some (m + 1) =>
    obtain rfl : some m = room' := Option.some.inj hr
    simp [Beyond]

theorem beyond_one_iff : Beyond room 1 ↔ inside? room = none := by
  match room with
  | none | some 0 | some (m + 1) => simp [Beyond, inside?]

/-- A token that could start a primary cannot only where it would open a level too many. -/
theorem opener_of_not_canStart (hc : CanStart none t) (h : ¬ CanStart room t) :
    Beyond room 1 ∧ OpensPrimary 1 (t :: us) (t :: us) := by
  match t with
  | .term _ => exact absurd trivial h
  | .and | .or | .rparen => exact absurd hc id
  | .lparen => exact ⟨beyond_one_iff.mpr (Decidable.not_not.mp h), .group us⟩
  | .not => exact ⟨beyond_one_iff.mpr (Decidable.not_not.mp h), .not us⟩

mutual

theorem ReadsPrimary.uncapped_or_opens {room : Option Nat} {ts us : List Token} {e : Expr} :
    ReadsPrimary room ts e us →
      ReadsPrimary none ts e us ∨ ∃ n, Beyond room n ∧ OpensPrimary n ts us
  | .term _ w ts => .inl (.term none w ts)
  | .group hr h => by
    rcases h.uncapped_or_opens with h' | ⟨n, hn, ho⟩
    · exact .inl (.group rfl h')
    · -- the group ends at a token that closes nothing
      rw [ho.opener.dropClose_eq]
      exact .inr ⟨n + 1, (beyond_inside hr).mpr hn, .inGroup ho⟩
  | .not hr h => by
    rcases h.uncapped_or_opens with h' | ⟨n, hn, ho⟩
    · exact .inl (.not rfl h')
    · exact .inr ⟨n + 1, (beyond_inside hr).mpr hn, .inNot ho⟩
  | @ReadsPrimary.empty _ [] _ => .inl (.empty fun _ ht => nomatch ht)
  | @ReadsPrimary.empty _ (t :: _) h => by
    by_cases hc : CanStart none t
    · exact .inr ⟨1, opener_of_not_canStart hc (h t rfl)⟩
    · exact .inl (.empty fun _ ht => Option.some.inj ht ▸ hc)

theorem ReadsPrimaries.uncapped_or_opens {room : Option Nat} {ts us : List Token}
    {es : List Expr} : ReadsPrimaries room ts es us →
      ReadsPrimaries none ts es us ∨ ∃ n, Beyond room n ∧ OpensPrimaries n ts us
  | .one h hand => by
    rcases h.uncapped_or_opens with h' | ⟨n, hn, ho⟩
    · exact .inl (.one h' hand)
    · exact .inr ⟨n, hn, .first ho⟩
  | .more h hs => by
    rcases h.uncapped_or_opens with h' | ⟨n, hn, ho⟩
    · rcases hs.uncapped_or_opens with hs' | ⟨n, hn, ho⟩
      · exact .inl (.more h' hs')
      · exact .inr ⟨n, hn, .later h' ho⟩
    · -- an `AND` is next, but where a level too many is opened none is
      exact absurd rfl (ho.opener.head?_ne (by simp) (by simp))

theorem ReadsConjunctions.uncapped_or_opens {room : Option Nat} {ts us : List Token}
    {es : List Expr} : ReadsConjunctions room ts es us →
      ReadsConjunctions none ts es us ∨ ∃ n, Beyond room n ∧ OpensConjunctions n ts us
  | .one h hor => by
    rcases h.uncapped_or_opens with h' | ⟨n, hn, ho⟩
    · exact .inl (.one h' hor)
    · exact .inr ⟨n, hn, .first ho⟩
  | .more h hs => by
    rcases h.uncapped_or_opens with h' | ⟨n, hn, ho⟩
    · rcases hs.uncapped_or_opens with hs' | ⟨n, hn, ho⟩
      · exact .inl (.more h' hs')
      · exact .inr ⟨n, hn, .later h' ho⟩
    · exact absurd rfl (ho.opener.head?_ne (by simp) (by simp))

/-- **A capped reading** is one without a cap, or it leaves a token that opens a level too many. -/
theorem ReadsDisjunction.uncapped_or_opens {room : Option Nat} {ts us : List Token} {e : Expr} :
    ReadsDisjunction room ts e us →
      ReadsDisjunction none ts e us ∨ ∃ n, Beyond room n ∧ OpensConjunctions n ts us
  | .of h => by
    rcases h.uncapped_or_opens with h' | ho
    · exact .inl (.of h')
    · exact .inr ho

end

/-! ### Levels too many are left -/

theorem not_opener_cons_and : ¬ Opener (.and :: us) := by simp [Opener]

theorem not_opener_cons_or : ¬ Opener (.or :: us) := by simp [Opener]

theorem Opener.suffix_dropClose (h : Opener vs) (hs : vs <:+ us) : vs <:+ dropClose us := by
  by_cases hc : us.head? = some .rparen
  · obtain ⟨r, rfl⟩ := List.head?_eq_some_iff.mp hc
    rcases List.suffix_cons_iff.mp hs with rfl | hs
    · exact absurd rfl (h.head?_ne (by simp) (by simp))
    · exact hs
  · rwa [dropClose_of_head?_ne hc]

/-- A capped reading that does not stop before a parenthesis or `NOT` is one without a cap. -/
theorem ReadsPrimary.uncapped (h : ReadsPrimary room ts e us) (hus : ¬ Opener us) :
    ReadsPrimary none ts e us :=
  h.uncapped_or_opens.resolve_right fun ⟨_, _, ho⟩ => hus ho.opener

theorem ReadsPrimaries.uncapped (h : ReadsPrimaries room ts es us) (hus : ¬ Opener us) :
    ReadsPrimaries none ts es us :=
  h.uncapped_or_opens.resolve_right fun ⟨_, _, ho⟩ => hus ho.opener

theorem ReadsDisjunction.uncapped (h : ReadsDisjunction room ts e us) (hus : ¬ Opener us) :
    ReadsDisjunction none ts e us :=
  h.uncapped_or_opens.resolve_right fun ⟨_, _, ho⟩ => hus ho.opener

/-- Without a cap reading goes at least as far. -/
theorem ReadsPrimary.suffix_of_uncapped (h : ReadsPrimary room ts e us)
    (h' : ReadsPrimary none ts f vs) : vs <:+ us := by
  rcases h.uncapped_or_opens with hu | ⟨_, _, ho⟩
  · obtain ⟨-, rfl⟩ := hu.unique h'
    exact List.suffix_refl us
  · exact (ho.within h').2

theorem ReadsPrimaries.suffix_of_uncapped (h : ReadsPrimaries room ts es us)
    (h' : ReadsPrimaries none ts fs vs) : vs <:+ us := by
  rcases h.uncapped_or_opens with hu | ⟨_, _, ho⟩
  · obtain ⟨-, rfl⟩ := hu.unique h'
    exact List.suffix_refl us
  · exact (ho.within h').2

/-- A token cannot be left before an operator and after it. -/
theorem not_suffix_cons (ho : Opener vs) (hs : vs <:+ t :: us) (ht : ¬ Opener (t :: us)) :
    ¬ t :: us <:+ vs := by
  intro hs'
  rcases List.suffix_cons_iff.mp hs with rfl | hs
  · exact ht ho
  · have := hs.length_le
    have := hs'.length_le
    rw [List.length_cons] at this
    omega

mutual

theorem ReadsPrimary.suffix_of_opens {room : Option Nat} {ts us : List Token} {e : Expr} :
    ReadsPrimary room ts e us → ∀ n vs, Beyond room n → OpensPrimary n ts vs → vs <:+ us
  | .term _ w ts => fun _ _ _ ho => nomatch ho
  | .group hr h => by
    intro n vs hn ho
    cases ho with
    | group => exact absurd (beyond_one_iff.mp hn) (by simp [hr])
    | inGroup ho =>
      exact ho.opener.suffix_dropClose (h.suffix_of_opens _ vs ((beyond_inside hr).mp hn) ho)
  | .not hr h => by
    intro n vs hn ho
    cases ho with
    | not => exact absurd (beyond_one_iff.mp hn) (by simp [hr])
    | inNot ho => exact h.suffix_of_opens _ vs ((beyond_inside hr).mp hn) ho
  | .empty _ => fun _ _ _ ho => ho.isSuffix

theorem ReadsPrimaries.suffix_of_opens {room : Option Nat} {ts us : List Token}
    {es : List Expr} : ReadsPrimaries room ts es us →
      ∀ n vs, Beyond room n → OpensPrimaries n ts vs → vs <:+ us
  | .one h _ => by
    intro n vs hn ho
    cases ho with
    | first ho => exact h.suffix_of_opens n vs hn ho
    | later h' ho => exact isSuffix_of_cons (h.suffix_of_uncapped h') ho.isSuffix
  | .more h hs => by
    intro n vs hn ho
    have hu := h.uncapped not_opener_cons_and
    cases ho with
    | first ho =>
      -- the level would be opened both before the `AND` and after it
      exact absurd (ho.within hu).2
        (not_suffix_cons ho.opener (h.suffix_of_opens n vs hn ho) not_opener_cons_and)
    | later h' ho =>
      obtain ⟨-, hus⟩ := h'.unique hu
      exact hs.suffix_of_opens n vs hn ((List.cons.inj hus).2 ▸ ho)

theorem ReadsConjunctions.suffix_of_opens {room : Option Nat} {ts us : List Token}
    {es : List Expr} : ReadsConjunctions room ts es us →
      ∀ n vs, Beyond room n → OpensConjunctions n ts vs → vs <:+ us
  | .one h _ => by
    intro n vs hn ho
    cases ho with
    | first ho => exact h.suffix_of_opens n vs hn ho
    | later h' ho => exact isSuffix_of_cons (h.suffix_of_uncapped h') ho.isSuffix
  | .more h hs => by
    intro n vs hn ho
    have hu := h.uncapped not_opener_cons_or
    cases ho with
    | first ho =>
      exact absurd (ho.within hu).2
        (not_suffix_cons ho.opener (h.suffix_of_opens n vs hn ho) not_opener_cons_or)
    | later h' ho =>
      obtain ⟨-, hus⟩ := h'.unique hu
      exact hs.suffix_of_opens n vs hn ((List.cons.inj hus).2 ▸ ho)

/-- **A capped reading leaves every token that opens a level too many.** -/
theorem ReadsDisjunction.suffix_of_opens {room : Option Nat} {ts us : List Token} {e : Expr} :
    ReadsDisjunction room ts e us → ∀ n vs, Beyond room n → OpensConjunctions n ts vs → vs <:+ us
  | .of h => h.suffix_of_opens

end

/-! ## Height -/

/-- The most nodes that a path crosses down to the next negation, group or leaf, that included. -/
def Expr.layer : Expr → Nat
  | .or _ => 3
  | .and _ => 2
  | .term _ | .not _ | .group _ | .empty => 1

theorem Expr.layer_le_three (e : Expr) : e.layer ≤ 3 := by
  cases e <;> simp [Expr.layer]

theorem Expr.layer_of_isPrimary (h : e.isPrimary = true) : e.layer = 1 := by
  cases e <;> simp_all [Expr.isPrimary, Expr.layer]

theorem Expr.layer_of_isOr (h : e.isOr = false) : e.layer ≤ 2 := by
  cases e <;> simp_all [Expr.isOr, Expr.layer]

mutual

/-- **The height of a canonical tree** is bounded by its nesting. -/
theorem Expr.height_le : (e : Expr) → e.isCanonical = true → e.height ≤ 3 * e.nesting + e.layer
  | .term _ | .empty => fun _ => Nat.le_refl _
  | .and es => by
    intro hc
    obtain ⟨-, hp, hcs⟩ := isCanonical_and.mp hc
    have hle := heightAll_le es hcs 1 fun e he => Nat.le_of_eq (Expr.layer_of_isPrimary (hp e he))
    exact Nat.succ_le_succ hle
  | .or es => by
    intro hc
    obtain ⟨-, ho, hcs⟩ := isCanonical_or.mp hc
    have hle := heightAll_le es hcs 2 fun e he => Expr.layer_of_isOr (ho e he)
    exact Nat.succ_le_succ hle
  | .not e => by
    intro hc
    obtain ⟨hp, hc⟩ := isCanonical_not.mp hc
    have hle := height_le e hc
    rw [Expr.layer_of_isPrimary hp] at hle
    simp only [Expr.height, Expr.nesting, Expr.layer]
    omega
  | .group e => by
    intro hc
    have hle := height_le e hc
    have hlayer := e.layer_le_three
    simp only [Expr.height, Expr.nesting, Expr.layer]
    omega

theorem Expr.heightAll_le : (es : List Expr) → allCanonical es = true → ∀ k,
    (∀ e ∈ es, e.layer ≤ k) → heightAll es ≤ 3 * nestingAll es + k
  | [] => fun _ _ _ => Nat.zero_le _
  | e :: es => by
    intro hc k hk
    obtain ⟨hce, hcs⟩ := allCanonical_cons.mp hc
    have hle := height_le e hce
    have hles := heightAll_le es hcs k fun x hx => hk x (List.mem_cons_of_mem _ hx)
    have hlayer := hk e List.mem_cons_self
    simp only [heightAll, nestingAll]
    omega

end

/-! ## Every list of tokens -/

theorem height_parse_le (ts : List Token) : (parse ts).expr.height ≤ 771 := by
  have hheight := Expr.height_le _ (isCanonical_parse ts)
  have hlayer := (parse ts).expr.layer_le_three
  have hn : (parse ts).expr.nesting ≤ 256 := nesting_parse_le ts
  omega

/-- Where reading does not end as it would without a cap, what is left starts with the first token
that opens a level too many, and the tokens before it are read as the same tree without a cap. -/
theorem ReadsDisjunction.stops_at_first (h : ReadsDisjunction room ts e us) (hn : Beyond room n)
    (ho : OpensConjunctions n ts us) :
    ∃ p, OpensAt n ts p ∧ (∀ q, OpensAt n ts q → p ≤ q) ∧
      (ts[p]? = some .lparen ∨ ts[p]? = some .not) ∧ us = ts.drop p ∧
      parseWithin none (ts.take p) = ⟨e, []⟩ := by
  obtain ⟨c, rfl, hcut⟩ := h.cut [] us rfl
  have hdrop : (c ++ us).drop c.length = us := List.drop_left
  refine ⟨c.length, ?_, fun q hq => ?_, ?_, hdrop.symm, ?_⟩
  · rwa [OpensAt, hdrop]
  · have hle := (h.suffix_of_opens n _ hn hq).length_le
    rw [List.length_drop, List.length_append] at hle
    omega
  · rw [List.getElem?_append_right (Nat.le_refl _), Nat.sub_self, ← List.head?_eq_getElem?]
    exact ho.opener
  · rw [List.take_left]
    exact (hcut.uncapped (by simp [Opener])).parseWithin_eq

/-- **The cap changes nothing except where it must.** If the tree that is found without a cap is
nested no deeper than the cap, the cap changes nothing. Otherwise the first parenthesis or `NOT`
that opens a level too many is left with all that comes after it, and the tree is the one that the
tokens before it spell without a cap. In any case the tree is nested no deeper than the cap, and its
height is bounded. -/
theorem parse_capped (ts : List Token) :
    (if (parseWithin none ts).expr.nesting ≤ 256 then parse ts = parseWithin none ts
      else ∃ p, OpensAt 257 ts p ∧ (∀ q, OpensAt 257 ts q → p ≤ q) ∧
        (ts[p]? = some .lparen ∨ ts[p]? = some .not) ∧ (parse ts).trailing = ts.drop p ∧
        parseWithin none (ts.take p) = ⟨(parse ts).expr, []⟩) ∧
      (parse ts).expr.nesting ≤ 256 ∧ (parse ts).expr.height ≤ 771 := by
  refine ⟨?_, nesting_parse_le ts, height_parse_le ts⟩
  have hread := parse_reads ts
  have hfree : ReadsDisjunction none ts (parseWithin none ts).expr (parseWithin none ts).trailing :=
    readOr_reads none ts
  rcases hread.uncapped_or_opens with hu | ⟨n, hn, ho⟩
  · have hparse : parseWithin none ts = parse ts := hu.parseWithin_eq
    have hn : (parse ts).expr.nesting ≤ 256 := nesting_parse_le ts
    rw [hparse, if_pos hn]
  · obtain rfl : n = 257 := by
      obtain ⟨m, hm, rfl⟩ := hn
      rw [← Option.some.inj hm, maxNesting]
    rw [if_neg (Nat.not_le.mpr (ho.le_nesting hfree))]
    exact hread.stops_at_first hn ho

end Concordance.Query

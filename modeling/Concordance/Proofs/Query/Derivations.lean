import Concordance.Proofs.Query.Lossless

/-!
# Reading is the grammar

A derivation spells a tree with tokens; a reading makes a tree of tokens. The readings that are
derivations are those that lack nothing: all tokens are taken, no operand is missing, and no closing
parenthesis is. A reading cannot miss a parenthesis unnoticed, for the tokens of a tree have as many
parentheses that open as close.

* **`Disjunction.reads`**: a derivation is a reading, whatever follows that cannot go on with it,
  where its nesting fits into the room.
* **`ReadsDisjunction.derives`**: a reading that lacks nothing is a derivation.
* **`derivable_iff_parse`**: reading accepts the grammar, nested no deeper than the cap, and the
  grammar is unambiguous.
-/

namespace Concordance.Query

open Concordance.Query.Expr (nestingAll flattenAll flattenMore allComplete allComplete_cons
  isComplete_conj isComplete_disj)

variable {m n : Nat} {room room' : Option Nat} {ts us fl : List Token} {e f : Expr} {es : List Expr}

/-! ## Nesting and room -/

/-- So much nesting fits into the room. -/
def Fits (n : Nat) (room : Option Nat) : Prop := ∀ m, room = some m → n ≤ m

theorem fits_none (n : Nat) : Fits n none := fun _ h => nomatch h

theorem fits_some : Fits n (some m) ↔ n ≤ m :=
  ⟨fun h => h m rfl, fun h _ hm => Option.some.inj hm ▸ h⟩

theorem Fits.max (h : Fits m room) (h' : Fits n room) : Fits (max m n) room :=
  fun k hk => Nat.max_le.mpr ⟨h k hk, h' k hk⟩

theorem Fits.mono (hmn : m ≤ n) (h : Fits n room) : Fits m room :=
  fun k hk => Nat.le_trans hmn (h k hk)

/-- A parenthesis or `NOT` can be opened where nesting fits, and the rest of it fits inside. -/
theorem Fits.inside (h : Fits (n + 1) room) : ∃ room', inside? room = some room' ∧ Fits n room' := by
  match room with
  | none => exact ⟨none, rfl, fits_none n⟩
  | some 0 => exact absurd (h 0 rfl) (Nat.not_succ_le_zero n)
  | some (m + 1) => exact ⟨some m, rfl, fits_some.mpr (Nat.le_of_succ_le_succ (h _ rfl))⟩

/-- What fits inside fits with one level more. -/
theorem Fits.outside (hr : inside? room = some room') (h : Fits n room') : Fits (n + 1) room := by
  match room with
  | none => exact fits_none _
  | some 0 => cases hr
  | some (m + 1) =>
    obtain rfl : some m = room' := Option.some.inj hr
    exact fits_some.mpr (Nat.succ_le_succ (fits_some.mp h))

mutual

theorem ReadsPrimary.nesting_fits {room : Option Nat} {ts us : List Token} {e : Expr} :
    ReadsPrimary room ts e us → Fits e.nesting room
  | .term _ _ _ => fun _ _ => Nat.zero_le _
  | .group hr h => h.nesting_fits.outside hr
  | .not hr h => h.nesting_fits.outside hr
  | .empty _ => fun _ _ => Nat.zero_le _

theorem ReadsPrimaries.nesting_fits {room : Option Nat} {ts us : List Token} {es : List Expr} :
    ReadsPrimaries room ts es us → Fits (nestingAll es) room
  | .one h _ => h.nesting_fits.max fun _ _ => Nat.zero_le _
  | .more h hs => h.nesting_fits.max hs.nesting_fits

theorem ReadsConjunctions.nesting_fits {room : Option Nat} {ts us : List Token}
    {es : List Expr} : ReadsConjunctions room ts es us → Fits (nestingAll es) room
  | .one h _ => by
    rw [nestingAll, nesting_conj]
    exact h.nesting_fits.max fun _ _ => Nat.zero_le _
  | .more h hs => by
    rw [nestingAll, nesting_conj]
    exact h.nesting_fits.max hs.nesting_fits

/-- The tree of a reading is nested no deeper than the room allows. -/
theorem ReadsDisjunction.nesting_fits {room : Option Nat} {ts us : List Token} {e : Expr} :
    ReadsDisjunction room ts e us → Fits e.nesting room
  | .of h => nesting_disj _ ▸ h.nesting_fits

end

/-! ## Parentheses -/

mutual

/-- The tokens of a tree have as many parentheses that open as close. -/
theorem Expr.count_flatten : (e : Expr) → e.flatten.count .lparen = e.flatten.count .rparen
  | .term _ | .empty => rfl
  | .and es => count_flattenAll (by decide) (by decide) es
  | .or es => count_flattenAll (by decide) (by decide) es
  | .not e => by simpa [Expr.flatten] using count_flatten e
  | .group e => by simpa [Expr.flatten] using count_flatten e

theorem Expr.count_flattenAll {op : Token} (hl : op ≠ .lparen) (hr : op ≠ .rparen) :
    (es : List Expr) → (flattenAll op es).count .lparen = (flattenAll op es).count .rparen
  | [] => rfl
  | e :: es => by
    simp only [flattenAll, List.count_append, count_flatten e, count_flattenMore hl hr es]

theorem Expr.count_flattenMore {op : Token} (hl : op ≠ .lparen) (hr : op ≠ .rparen) :
    (es : List Expr) → (flattenMore op es).count .lparen = (flattenMore op es).count .rparen
  | [] => rfl
  | e :: es => by
    simp only [flattenMore, List.count_cons_of_ne hl, List.count_cons_of_ne hr, List.count_append,
      count_flatten e, count_flattenMore hl hr es]

end

/-! ## A derivation is a reading -/

mutual

theorem Primary.reads {n : Nat} {ts : List Token} {e : Expr} :
    Primary n ts e → ∀ room rest, Fits n room → ReadsPrimary room (ts ++ rest) e rest
  | .term _ w => fun room rest _ => .term room w rest
  | .group h => by
    intro room rest hn
    obtain ⟨room', hr, hn'⟩ := hn.inside
    have hread := h.reads room' (.rparen :: rest) hn' (by simp) (by simp)
    rw [List.cons_append, List.append_assoc]
    exact .group hr hread
  | .not h => by
    intro room rest hn
    obtain ⟨room', hr, hn'⟩ := hn.inside
    exact .not hr (h.reads room' rest hn')

theorem Primaries.reads {n : Nat} {ts : List Token} {es : List Expr} :
    Primaries n ts es → ∀ room rest, Fits n room → rest.head? ≠ some .and →
      ReadsPrimaries room (ts ++ rest) es rest
  | .one h => fun room rest hn hand => .one (h.reads room rest hn) hand
  | @Primaries.more _ _ us _ _ h hs => by
    intro room rest hn hand
    rw [List.append_assoc]
    exact .more (h.reads room (.and :: (us ++ rest)) hn) (hs.reads room rest hn hand)

theorem Conjunctions.reads {n : Nat} {ts : List Token} {es : List Expr} :
    Conjunctions n ts es → ∀ room rest, Fits n room → rest.head? ≠ some .and →
      rest.head? ≠ some .or → ReadsConjunctions room (ts ++ rest) es rest
  | .one h => fun room rest hn hand hor => .one (h.reads room rest hn hand) hor
  | @Conjunctions.more _ _ us _ _ h hs => by
    intro room rest hn hand hor
    rw [List.append_assoc]
    have hread := h.reads room (.or :: (us ++ rest)) hn (by simp)
    exact .more hread (hs.reads room rest hn hand hor)

/-- **A derivation is a reading** of its tokens before any that cannot go on with it. -/
theorem Disjunction.reads {n : Nat} {ts : List Token} {e : Expr} :
    Disjunction n ts e → ∀ room rest, Fits n room → rest.head? ≠ some .and →
      rest.head? ≠ some .or → ReadsDisjunction room (ts ++ rest) e rest
  | .of h => fun room rest hn hand hor => .of (h.reads room rest hn hand hor)

end

theorem Disjunction.reads_all (h : Disjunction n ts e) (hn : Fits n room) :
    ReadsDisjunction room ts e [] := by
  have hread := h.reads room [] hn (by simp) (by simp)
  rwa [List.append_nil] at hread

/-! ## A reading that lacks nothing is a derivation -/

mutual

/-- No operand is missing in the tree of a derivation. -/
theorem Primary.isComplete {n : Nat} {ts : List Token} {e : Expr} :
    Primary n ts e → e.isComplete = true
  | .term _ _ => rfl
  | .group h => h.isComplete
  | .not h => h.isComplete

theorem Primaries.allComplete {n : Nat} {ts : List Token} {es : List Expr} :
    Primaries n ts es → allComplete es = true
  | .one h => allComplete_cons.mpr ⟨h.isComplete, rfl⟩
  | .more h hs => allComplete_cons.mpr ⟨h.isComplete, hs.allComplete⟩

theorem Conjunctions.allComplete {n : Nat} {ts : List Token} {es : List Expr} :
    Conjunctions n ts es → allComplete es = true
  | .one h => by
    rw [allComplete_cons, isComplete_conj]
    exact ⟨h.allComplete, rfl⟩
  | .more h hs => by
    rw [allComplete_cons, isComplete_conj]
    exact ⟨h.allComplete, hs.allComplete⟩

theorem Disjunction.isComplete {n : Nat} {ts : List Token} {e : Expr} :
    Disjunction n ts e → e.isComplete = true
  | .of h => isComplete_disj _ ▸ h.allComplete

end

/-- A group that takes its own closing parenthesis lacks none inside. -/
theorem Takes.exact_of_close (h : Takes ts us fl)
    (hts : ts = fl ++ .rparen :: dropClose us) : us = .rparen :: dropClose us := by
  by_cases hc : us.head? = some .rparen
  · obtain ⟨r, rfl⟩ := List.head?_eq_some_iff.mp hc
    rfl
  · obtain ⟨c, k, rfl, rfl, hq⟩ := h
    rw [dropClose_of_head?_ne hc] at hts
    have hlen := congrArg List.length hts
    simp only [List.length_append, List.length_cons] at hlen
    omega

mutual

theorem ReadsPrimary.derives {room : Option Nat} {ts us : List Token} {e : Expr} :
    ReadsPrimary room ts e us → e.isComplete = true → ts = e.flatten ++ us →
      ∀ n, e.nesting ≤ n → Primary n e.flatten e
  | .term _ w _ => fun _ _ n _ => .term n w
  | @ReadsPrimary.group _ _ ts us e _ h => by
    intro hc hts n hn
    have hts' : ts = e.flatten ++ .rparen :: dropClose us := by simpa [Expr.flatten] using hts
    rw [← h.takes.exact_of_close hts'] at hts'
    obtain ⟨k, rfl⟩ := Nat.exists_eq_add_of_lt hn
    exact .group (h.derives hc hts' _ (Nat.le_add_right ..))
  | .not _ h => by
    intro hc hts n hn
    obtain ⟨k, rfl⟩ := Nat.exists_eq_add_of_lt hn
    exact .not (h.derives hc (List.cons.inj hts).2 _ (Nat.le_add_right ..))
  | .empty _ => fun hc => nomatch hc

theorem ReadsPrimaries.derives {room : Option Nat} {ts us : List Token} {es : List Expr} :
    ReadsPrimaries room ts es us → allComplete es = true → ts = flattenAll .and es ++ us →
      ∀ n, nestingAll es ≤ n → Primaries n (flattenAll .and es) es
  | .one h _ => by
    intro hc hts n hn
    rw [flattenAll, flattenMore, List.append_nil] at hts ⊢
    exact .one (h.derives (allComplete_cons.mp hc).1 hts n (Nat.max_le.mp hn).1)
  | .more h hs => by
    intro hc hts n hn
    obtain ⟨hc, hcs⟩ := allComplete_cons.mp hc
    obtain ⟨hn, hns⟩ := Nat.max_le.mp hn
    have hex := h.takes.exact not_quits_and
    rw [flattenAll_cons _ _ hs.ne_nil] at hts ⊢
    rw [hex, List.append_assoc, List.append_cancel_left_eq] at hts
    exact .more (h.derives hc hex n hn) (hs.derives hcs (List.cons.inj hts).2 n hns)

theorem ReadsConjunctions.derives {room : Option Nat} {ts us : List Token} {es : List Expr} :
    ReadsConjunctions room ts es us → allComplete es = true → ts = flattenAll .or es ++ us →
      ∀ n, nestingAll es ≤ n → Conjunctions n (flattenAll .or es) es
  | .one h _ => by
    intro hc hts n hn
    rw [allComplete_cons, isComplete_conj] at hc
    rw [nestingAll, nesting_conj] at hn
    rw [flattenAll, flattenMore, List.append_nil, flatten_conj] at hts ⊢
    exact .one (h.derives hc.1 hts n (Nat.max_le.mp hn).1)
  | .more h hs => by
    intro hc hts n hn
    rw [allComplete_cons, isComplete_conj] at hc
    rw [nestingAll, nesting_conj] at hn
    obtain ⟨hn, hns⟩ := Nat.max_le.mp hn
    have hex := h.takes.exact not_quits_or
    rw [flattenAll_cons _ _ hs.ne_nil, flatten_conj] at hts ⊢
    rw [hex, List.append_assoc, List.append_cancel_left_eq] at hts
    exact .more (h.derives hc.1 hex n hn) (hs.derives hc.2 (List.cons.inj hts).2 n hns)

/-- **A reading that lacks nothing is a derivation**, for every bound that its tree keeps. -/
theorem ReadsDisjunction.derives {room : Option Nat} {ts us : List Token} {e : Expr} :
    ReadsDisjunction room ts e us → e.isComplete = true → ts = e.flatten ++ us →
      ∀ n, e.nesting ≤ n → Disjunction n e.flatten e
  | .of h => by
    intro hc hts n hn
    rw [isComplete_disj] at hc
    rw [nesting_disj] at hn
    rw [flatten_disj] at hts ⊢
    exact .of (h.derives hc hts n hn)

end

/-- The bound of a derivation can be any that its tree keeps. -/
theorem Disjunction.of_nesting_le (h : Disjunction m ts e) (hn : e.nesting ≤ n) :
    Disjunction n ts e := by
  have hread := h.reads_all (fits_none m)
  rw [← h.flatten] at hread ⊢
  exact hread.derives h.isComplete (List.append_nil _).symm n hn

/-- No tokens have derivations of two trees. -/
theorem Disjunction.unique (h : Disjunction m ts e) (h' : Disjunction n ts f) : e = f :=
  ((h.reads_all (fits_none m)).unique (h'.reads_all (fits_none n))).1

/-! ## The grammar and the cap -/

/-- Balanced tokens that are all taken are those of the tree. -/
theorem Takes.flatten_eq (h : Takes ts [] e.flatten)
    (hts : ts.count .lparen = ts.count .rparen) : e.flatten = ts := by
  obtain ⟨c, k, rfl, hfl, -⟩ := h
  rw [List.append_nil] at hts ⊢
  have hcount := e.count_flatten
  rw [hfl] at hcount
  simp only [List.count_append, List.count_replicate] at hcount
  obtain rfl : k = 0 := by simp at hcount; omega
  rw [hfl, List.replicate_zero, List.append_nil]

/-- **Reading accepts exactly the grammar**: tokens have a derivation of a tree that is nested no
deeper than the cap iff reading finds the tree and leaves no token, no operand is missing and the
parentheses are balanced. A derivation is of one tree only, in which a conjunction stands above
negations, groups and terms alone and a disjunction above no disjunction. -/
theorem derivable_iff_parse (ts : List Token) (e : Expr) :
    (((∃ n, Disjunction n ts e) ∧ e.nesting ≤ 256) ↔
      (parse ts).expr = e ∧ (parse ts).trailing = [] ∧ e.isComplete = true ∧
        ts.count .lparen = ts.count .rparen) ∧
    ∀ n, Disjunction n ts e → e.isCanonical = true ∧ ∀ m f, Disjunction m ts f → f = e := by
  refine ⟨⟨?_, ?_⟩, ?_⟩
  · rintro ⟨⟨n, h⟩, hn⟩
    have hfits : Fits 256 (some maxNesting) := fits_some.mpr (Nat.le_refl _)
    have hparse : parse ts = ⟨e, []⟩ := ((h.of_nesting_le hn).reads_all hfits).parseWithin_eq
    refine ⟨congrArg Parsed.expr hparse, congrArg Parsed.trailing hparse, h.isComplete, ?_⟩
    rw [← h.flatten]
    exact e.count_flatten
  · rintro ⟨rfl, htr, hc, hcount⟩
    have hread := parse_reads ts
    have hn : (parse ts).expr.nesting ≤ 256 := fits_some.mp hread.nesting_fits
    rw [htr] at hread
    have hfl := hread.takes.flatten_eq hcount
    have hd := hread.derives hc (by rw [hfl, List.append_nil]) 256 hn
    rw [hfl] at hd
    exact ⟨⟨256, hd⟩, hn⟩
  · intro n h
    exact ⟨(h.reads_all (fits_none n)).isCanonical, fun m f h' => h'.unique h⟩

end Concordance.Query

import Mathlib.Data.Set.Function
import Concordance.Proofs.Query.Derivations

/-!
# Canonical trees are read back

A missing operand is spelled by no token, so the tokens of a tree may be operators next to
operators. They are still read as the same tree: wherever a canonical tree has a primary, an
operator, a closing parenthesis or the end follows (`Stops`), and none of these can start a primary.
An operand that is missing is found missing at its own place.

The induction is on the tree, for any tokens after it that cannot go on with it. A tree is read as a
primary, as a conjunction or as a disjunction, according to what stands around it.

* **`Expr.readsDisjunction`**: a canonical tree is read from its tokens, whatever follows that
  cannot go on with it, where its nesting fits into the room.
* **`parse_flatten`**: it is read from its tokens alone.
* **`parse_flatten_iff`**: these are the trees that reading finds, and no two are spelled alike.
-/

namespace Concordance.Query

open Concordance.Query.Expr (nestingAll flattenAll flattenMore allCanonical allCanonical_cons
  isCanonical_and isCanonical_or isCanonical_not conj_of_two_le disj_of_two_le)

/-- No primary starts at these tokens, with however much room. -/
def Stops (rest : List Token) : Prop := ∀ room t, rest.head? = some t → ¬ CanStart room t

theorem stops_nil : Stops [] := by simp [Stops]

theorem stops_and (ts : List Token) : Stops (.and :: ts) := by simp [Stops, CanStart]

theorem stops_or (ts : List Token) : Stops (.or :: ts) := by simp [Stops, CanStart]

theorem stops_rparen (ts : List Token) : Stops (.rparen :: ts) := by simp [Stops, CanStart]

-- A disjunction is read through its conjunctions and these through their primaries, each of the
-- same tree where there is only one, so the measure has three steps for a node.
mutual

theorem Expr.readsPrimary (e : Expr) (hp : e.isPrimary = true) (hc : e.isCanonical = true)
    (room : Option Nat) (rest : List Token) (hn : Fits e.nesting room) (hrest : Stops rest) :
    ReadsPrimary room (e.flatten ++ rest) e rest :=
  match e with
  | .term w => .term room w rest
  | .not e => by
    obtain ⟨hp, hc⟩ := isCanonical_not.mp hc
    obtain ⟨room', hr, hn'⟩ := hn.inside
    exact .not hr (e.readsPrimary hp hc room' rest hn' hrest)
  | .group e => by
    obtain ⟨room', hr, hn'⟩ := hn.inside
    have hread := e.readsDisjunction hc room' (.rparen :: rest) hn' (stops_rparen rest) (by simp)
      (by simp)
    rw [Expr.flatten, List.cons_append, List.append_assoc]
    exact .group hr hread
  | .empty => .empty (hrest room)
termination_by sizeOf e * 3

theorem Expr.readsPrimaries (es : List Expr) (hne : es ≠ []) (hp : ∀ e ∈ es, e.isPrimary = true)
    (hc : allCanonical es = true) (room : Option Nat) (rest : List Token)
    (hn : Fits (nestingAll es) room) (hrest : Stops rest) (hand : rest.head? ≠ some .and) :
    ReadsPrimaries room (flattenAll .and es ++ rest) es rest :=
  match es with
  | [e] => by
    have hread := e.readsPrimary (hp e List.mem_cons_self) (allCanonical_cons.mp hc).1 room rest
      (hn.mono (Nat.le_max_left ..)) hrest
    rw [flattenAll, flattenMore, List.append_nil]
    exact .one hread hand
  | e :: f :: es => by
    obtain ⟨hce, hcs⟩ := allCanonical_cons.mp hc
    have hread := e.readsPrimary (hp e List.mem_cons_self) hce room
      (.and :: (flattenAll .and (f :: es) ++ rest)) (hn.mono (Nat.le_max_left ..)) (stops_and _)
    have hmore := Expr.readsPrimaries (f :: es) (by simp)
      (fun x hx => hp x (List.mem_cons_of_mem _ hx)) hcs room rest (hn.mono (Nat.le_max_right ..))
      hrest hand
    rw [flattenAll_cons _ _ (List.cons_ne_nil f es), List.append_assoc]
    exact .more hread hmore
termination_by sizeOf es * 3

/-- A canonical tree that is no disjunction is read as a conjunction. -/
theorem Expr.readsConjunction (e : Expr) (ho : e.isOr = false) (hc : e.isCanonical = true)
    (room : Option Nat) (rest : List Token) (hn : Fits e.nesting room) (hrest : Stops rest)
    (hand : rest.head? ≠ some .and) :
    ∃ es, Expr.conj es = e ∧ ReadsPrimaries room (e.flatten ++ rest) es rest := by
  match e with
  | .and es =>
    obtain ⟨hlen, hp, hcs⟩ := isCanonical_and.mp hc
    have hne : es ≠ [] := List.ne_nil_of_length_pos (Nat.lt_of_succ_lt hlen)
    exact ⟨es, conj_of_two_le hlen, Expr.readsPrimaries es hne hp hcs room rest hn hrest hand⟩
  | .term _ | .not _ | .group _ | .empty =>
    exact ⟨[_], rfl, .one (Expr.readsPrimary _ rfl hc room rest hn hrest) hand⟩
termination_by sizeOf e * 3 + 1

theorem Expr.readsConjunctions (es : List Expr) (hne : es ≠ []) (ho : ∀ e ∈ es, e.isOr = false)
    (hc : allCanonical es = true) (room : Option Nat) (rest : List Token)
    (hn : Fits (nestingAll es) room) (hrest : Stops rest) (hand : rest.head? ≠ some .and)
    (hor : rest.head? ≠ some .or) :
    ReadsConjunctions room (flattenAll .or es ++ rest) es rest :=
  match es with
  | [e] => by
    obtain ⟨fs, rfl, hread⟩ := e.readsConjunction (ho e List.mem_cons_self)
      (allCanonical_cons.mp hc).1 room rest (hn.mono (Nat.le_max_left ..)) hrest hand
    rw [flattenAll, flattenMore, List.append_nil]
    exact .one hread hor
  | e :: f :: es => by
    obtain ⟨hce, hcs⟩ := allCanonical_cons.mp hc
    obtain ⟨fs, rfl, hread⟩ := e.readsConjunction (ho e List.mem_cons_self) hce room
      (.or :: (flattenAll .or (f :: es) ++ rest)) (hn.mono (Nat.le_max_left ..)) (stops_or _)
      (by simp)
    have hmore := Expr.readsConjunctions (f :: es) (by simp)
      (fun x hx => ho x (List.mem_cons_of_mem _ hx)) hcs room rest (hn.mono (Nat.le_max_right ..))
      hrest hand hor
    rw [flattenAll_cons _ _ (List.cons_ne_nil f es), List.append_assoc]
    exact .more hread hmore
termination_by sizeOf es * 3

/-- **A canonical tree is read from its tokens** before any that cannot go on with it. -/
theorem Expr.readsDisjunction (e : Expr) (hc : e.isCanonical = true)
    (room : Option Nat) (rest : List Token) (hn : Fits e.nesting room) (hrest : Stops rest)
    (hand : rest.head? ≠ some .and) (hor : rest.head? ≠ some .or) :
    ReadsDisjunction room (e.flatten ++ rest) e rest := by
  by_cases ho : e.isOr = false
  · obtain ⟨fs, rfl, hread⟩ := e.readsConjunction ho hc room rest hn hrest hand
    exact .of (.one hread hor)
  · match e with
    | .or es =>
      obtain ⟨hlen, ho, hcs⟩ := isCanonical_or.mp hc
      have hne : es ≠ [] := List.ne_nil_of_length_pos (Nat.lt_of_succ_lt hlen)
      have hread := Expr.readsConjunctions es hne ho hcs room rest hn hrest hand hor
      rw [← disj_of_two_le hlen, flatten_disj]
      exact .of hread
    | .term _ | .and _ | .not _ | .group _ | .empty => exact absurd rfl ho
termination_by sizeOf e * 3 + 2

end

/-! ## Every canonical tree -/

/-- **A canonical tree is read back** from its tokens, where it is nested no deeper than the cap. -/
theorem parse_flatten {e : Expr} (hc : e.isCanonical = true) (hn : e.nesting ≤ maxNesting) :
    parse e.flatten = ⟨e, []⟩ := by
  have hread := e.readsDisjunction hc (some maxNesting) [] (fits_some.mpr hn) stops_nil (by simp)
    (by simp)
  rw [List.append_nil] at hread
  exact hread.parseWithin_eq

theorem isCanonical_parse (ts : List Token) : (parse ts).expr.isCanonical = true :=
  (parse_reads ts).isCanonical

theorem nesting_parse_le (ts : List Token) : (parse ts).expr.nesting ≤ maxNesting :=
  fits_some.mp (parse_reads ts).nesting_fits

/-- **The trees that reading finds** are the canonical ones that are nested no deeper than the cap:
just these are read back from the tokens that spell them, there are no others, and no two of them
are spelled alike. -/
theorem parse_flatten_iff :
    (∀ e : Expr, parse e.flatten = ⟨e, []⟩ ↔ e.isCanonical = true ∧ e.nesting ≤ 256) ∧
      Set.range (fun ts => (parse ts).expr) = {e | e.isCanonical = true ∧ e.nesting ≤ 256} ∧
      Set.InjOn Expr.flatten {e | e.isCanonical = true ∧ e.nesting ≤ 256} := by
  refine ⟨fun e => ⟨fun h => ?_, fun h => parse_flatten h.1 h.2⟩, Set.ext fun e => ⟨?_, ?_⟩, ?_⟩
  · have he : (parse e.flatten).expr = e := congrArg Parsed.expr h
    rw [← he]
    exact ⟨isCanonical_parse _, nesting_parse_le _⟩
  · rintro ⟨ts, rfl⟩
    exact ⟨isCanonical_parse ts, nesting_parse_le ts⟩
  · rintro ⟨hc, hn⟩
    exact ⟨e.flatten, congrArg Parsed.expr (parse_flatten hc hn)⟩
  · rintro e ⟨hc, hn⟩ f ⟨hc', hn'⟩ hef
    have hparse := parse_flatten hc hn
    rw [hef, parse_flatten hc' hn'] at hparse
    exact (congrArg Parsed.expr hparse).symm

end Concordance.Query

import Concordance.Query.Parse

/-!
# Readings

What the readers make of tokens, as relations. A reading relates tokens to a tree and the tokens
that are left. It has the rules of the grammar, and three more that make it lenient: a primary that
cannot start is `empty`, a group may end without its parenthesis, and whatever follows is left.

Properties of the readers are proved of readings, by induction on how they come about: a rule names
the tokens between two operands, which a reader computes. The readers and the readings are the same
thing.

* **`parseWithin_eq_iff`**: reading finds a tree and leaves tokens iff there is such a reading.
* `exists_reading`, `ReadsDisjunction.unique`: every list of tokens has exactly one.
-/

namespace Concordance.Query

/-- A primary can start with a token, where so much room is left. -/
def CanStart (room : Option Nat) : Token → Prop
  | .term _ => True
  | .lparen | .not => inside? room ≠ none
  | .and | .or | .rparen => False

mutual

/-- A reading of a primary. -/
inductive ReadsPrimary : Option Nat → List Token → Expr → List Token → Prop
  | term (room : Option Nat) (w : Text) (ts : List Token) :
    ReadsPrimary room (.term w :: ts) (.term w) ts
  | group {room room' : Option Nat} {ts us : List Token} {e : Expr} (hr : inside? room = some room')
    (h : ReadsDisjunction room' ts e us) :
    ReadsPrimary room (.lparen :: ts) (.group e) (dropClose us)
  | not {room room' : Option Nat} {ts us : List Token} {e : Expr} (hr : inside? room = some room')
    (h : ReadsPrimary room' ts e us) : ReadsPrimary room (.not :: ts) (.not e) us
  | empty {room : Option Nat} {ts : List Token} (h : ∀ t, ts.head? = some t → ¬ CanStart room t) :
    ReadsPrimary room ts .empty ts

/-- A reading of primaries with `AND` between neighbours and after none. -/
inductive ReadsPrimaries : Option Nat → List Token → List Expr → List Token → Prop
  | one {room : Option Nat} {ts us : List Token} {e : Expr} (h : ReadsPrimary room ts e us)
    (hs : us.head? ≠ some .and) : ReadsPrimaries room ts [e] us
  | more {room : Option Nat} {ts us vs : List Token} {e : Expr} {es : List Expr}
    (h : ReadsPrimary room ts e (.and :: us)) (hs : ReadsPrimaries room us es vs) :
    ReadsPrimaries room ts (e :: es) vs

/-- A reading of conjunctions with `OR` between neighbours and after none. -/
inductive ReadsConjunctions : Option Nat → List Token → List Expr → List Token → Prop
  | one {room : Option Nat} {ts us : List Token} {es : List Expr} (h : ReadsPrimaries room ts es us)
    (hs : us.head? ≠ some .or) : ReadsConjunctions room ts [.conj es] us
  | more {room : Option Nat} {ts us vs : List Token} {es fs : List Expr}
    (h : ReadsPrimaries room ts es (.or :: us)) (hs : ReadsConjunctions room us fs vs) :
    ReadsConjunctions room ts (.conj es :: fs) vs

/-- A reading of a disjunction. -/
inductive ReadsDisjunction : Option Nat → List Token → Expr → List Token → Prop
  | of {room : Option Nat} {ts us : List Token} {es : List Expr}
    (h : ReadsConjunctions room ts es us) : ReadsDisjunction room ts (.disj es) us

end

variable {room room' : Option Nat} {ts us vs : List Token} {e f : Expr} {es : List Expr}

/-! ## One step of each reader -/

/-- The primaries that `readAnd` makes a conjunction of. -/
def readPrimaries (room : Option Nat) (ts : List Token) : List Expr × List Token :=
  let p := (readPrimary room ts).1
  let q := (readAnds room p.2).1
  (p.1 :: q.1, q.2)

/-- The conjunctions that `readOr` makes a disjunction of. -/
def readConjunctions (room : Option Nat) (ts : List Token) : List Expr × List Token :=
  let p := (readAnd room ts).1
  let q := (readOrs room p.2).1
  (p.1 :: q.1, q.2)

theorem readAnd_eq (room : Option Nat) (ts : List Token) :
    (readAnd room ts).1 = (.conj (readPrimaries room ts).1, (readPrimaries room ts).2) := by
  rw [readAnd]
  rfl

theorem readOr_eq (room : Option Nat) (ts : List Token) :
    (readOr room ts).1 = (.disj (readConjunctions room ts).1, (readConjunctions room ts).2) := by
  rw [readOr]
  rfl

theorem readAnds_and (room : Option Nat) (ts : List Token) :
    (readAnds room (.and :: ts)).1 = readPrimaries room ts := by
  rw [readAnds]
  rfl

theorem readOrs_or (room : Option Nat) (ts : List Token) :
    (readOrs room (.or :: ts)).1 = readConjunctions room ts := by
  rw [readOrs]
  rfl

theorem readAnds_stop (h : ts.head? ≠ some .and) : (readAnds room ts).1 = ([], ts) := by
  match ts with
  | [] | .term _ :: _ | .or :: _ | .not :: _ | .lparen :: _ | .rparen :: _ => rw [readAnds]; simp
  | .and :: _ => exact absurd rfl h

theorem readOrs_stop (h : ts.head? ≠ some .or) : (readOrs room ts).1 = ([], ts) := by
  match ts with
  | [] | .term _ :: _ | .and :: _ | .not :: _ | .lparen :: _ | .rparen :: _ => rw [readOrs]; simp
  | .or :: _ => exact absurd rfl h

theorem readPrimary_term (room : Option Nat) (w : Text) (ts : List Token) :
    (readPrimary room (.term w :: ts)).1 = (.term w, ts) := by
  rw [readPrimary]

theorem readPrimary_lparen (hr : inside? room = some room') (ts : List Token) :
    (readPrimary room (.lparen :: ts)).1 =
      (.group (readOr room' ts).1.1, dropClose (readOr room' ts).1.2) := by
  rw [readPrimary]
  simp only [hr]

theorem readPrimary_not (hr : inside? room = some room') (ts : List Token) :
    (readPrimary room (.not :: ts)).1 =
      (.not (readPrimary room' ts).1.1, (readPrimary room' ts).1.2) := by
  rw [readPrimary]
  simp only [hr]

theorem readPrimary_empty (h : ∀ t, ts.head? = some t → ¬ CanStart room t) :
    (readPrimary room ts).1 = (.empty, ts) := by
  match ts with
  | [] | .and :: _ | .or :: _ | .rparen :: _ => rw [readPrimary] <;> simp
  | .term w :: _ => exact absurd trivial (h (.term w) rfl)
  | .lparen :: _ =>
    have hr : inside? room = none := Decidable.not_not.mp (h .lparen rfl)
    rw [readPrimary]
    simp only [hr]
  | .not :: _ =>
    have hr : inside? room = none := Decidable.not_not.mp (h .not rfl)
    rw [readPrimary]
    simp only [hr]

theorem readPrimaries_one (h : (readPrimary room ts).1 = (e, us)) (hs : us.head? ≠ some .and) :
    readPrimaries room ts = ([e], us) := by
  unfold readPrimaries
  rw [h]
  dsimp only
  rw [readAnds_stop hs]

theorem readPrimaries_more (h : (readPrimary room ts).1 = (e, .and :: us)) :
    readPrimaries room ts = (e :: (readPrimaries room us).1, (readPrimaries room us).2) := by
  conv => lhs; unfold readPrimaries
  rw [h]
  dsimp only
  rw [readAnds_and]

theorem readConjunctions_one (h : readPrimaries room ts = (es, us)) (hs : us.head? ≠ some .or) :
    readConjunctions room ts = ([.conj es], us) := by
  unfold readConjunctions
  rw [readAnd_eq, h]
  dsimp only
  rw [readOrs_stop hs]

theorem readConjunctions_more (h : readPrimaries room ts = (es, .or :: us)) :
    readConjunctions room ts =
      (.conj es :: (readConjunctions room us).1, (readConjunctions room us).2) := by
  conv => lhs; unfold readConjunctions
  rw [readAnd_eq, h]
  dsimp only
  rw [readOrs_or]

/-! ## The readers are the readings -/

mutual

theorem readPrimary_reads (room : Option Nat) (ts : List Token) :
    ReadsPrimary room ts (readPrimary room ts).1.1 (readPrimary room ts).1.2 := by
  by_cases hstop : ∀ t, ts.head? = some t → ¬ CanStart room t
  · rw [readPrimary_empty hstop]
    exact .empty hstop
  · match ts with
    | [] | .and :: _ | .or :: _ | .rparen :: _ => exact absurd (by simp [CanStart]) hstop
    | .term w :: r =>
      rw [readPrimary_term]
      exact .term room w r
    | .lparen :: r =>
      cases hr : inside? room with
      | none => exact absurd (by simp [CanStart, hr]) hstop
      | some room' =>
        rw [readPrimary_lparen hr]
        exact .group hr (readOr_reads room' r)
    | .not :: r =>
      cases hr : inside? room with
      | none => exact absurd (by simp [CanStart, hr]) hstop
      | some room' =>
        rw [readPrimary_not hr]
        exact .not hr (readPrimary_reads room' r)
termination_by ts.length * 4
decreasing_by all_goals simp only [List.length_cons]; omega

theorem readPrimaries_reads (room : Option Nat) (ts : List Token) :
    ReadsPrimaries room ts (readPrimaries room ts).1 (readPrimaries room ts).2 := by
  have hp := readPrimary_reads room ts
  have hle := (readPrimary room ts).2
  obtain ⟨⟨e, us⟩, he⟩ : ∃ r, (readPrimary room ts).1 = r := ⟨_, rfl⟩
  rw [he] at hp hle
  by_cases hand : us.head? = some .and
  · obtain ⟨vs, rfl⟩ := List.head?_eq_some_iff.mp hand
    have hlt : vs.length < ts.length := hle
    rw [readPrimaries_more he]
    exact .more hp (readPrimaries_reads room vs)
  · rw [readPrimaries_one he hand]
    exact .one hp hand
termination_by ts.length * 4 + 1
decreasing_by all_goals omega

theorem readConjunctions_reads (room : Option Nat) (ts : List Token) :
    ReadsConjunctions room ts (readConjunctions room ts).1 (readConjunctions room ts).2 := by
  have hp := readPrimaries_reads room ts
  have hle := (readAnd room ts).2
  rw [readAnd_eq] at hle
  obtain ⟨⟨es, us⟩, hes⟩ : ∃ r, readPrimaries room ts = r := ⟨_, rfl⟩
  rw [hes] at hp hle
  by_cases hor : us.head? = some .or
  · obtain ⟨vs, rfl⟩ := List.head?_eq_some_iff.mp hor
    have hlt : vs.length < ts.length := hle
    rw [readConjunctions_more hes]
    exact .more hp (readConjunctions_reads room vs)
  · rw [readConjunctions_one hes hor]
    exact .one hp hor
termination_by ts.length * 4 + 2
decreasing_by all_goals omega

theorem readOr_reads (room : Option Nat) (ts : List Token) :
    ReadsDisjunction room ts (readOr room ts).1.1 (readOr room ts).1.2 := by
  rw [readOr_eq]
  exact .of (readConjunctions_reads room ts)
termination_by ts.length * 4 + 3
decreasing_by all_goals omega

end

mutual

theorem ReadsPrimary.readPrimary_eq {room : Option Nat} {ts us : List Token} {e : Expr} :
    ReadsPrimary room ts e us → (readPrimary room ts).1 = (e, us)
  | .term _ _ _ => readPrimary_term ..
  | .group hr h => by rw [readPrimary_lparen hr, h.readOr_eq]
  | .not hr h => by rw [readPrimary_not hr, h.readPrimary_eq]
  | .empty h => readPrimary_empty h

theorem ReadsPrimaries.readPrimaries_eq {room : Option Nat} {ts us : List Token}
    {es : List Expr} : ReadsPrimaries room ts es us → readPrimaries room ts = (es, us)
  | .one h hs => readPrimaries_one h.readPrimary_eq hs
  | .more h hs => by rw [readPrimaries_more h.readPrimary_eq, hs.readPrimaries_eq]

theorem ReadsConjunctions.readConjunctions_eq {room : Option Nat} {ts us : List Token}
    {es : List Expr} : ReadsConjunctions room ts es us → readConjunctions room ts = (es, us)
  | .one h hs => readConjunctions_one h.readPrimaries_eq hs
  | .more h hs => by rw [readConjunctions_more h.readPrimaries_eq, hs.readConjunctions_eq]

theorem ReadsDisjunction.readOr_eq {room : Option Nat} {ts us : List Token} {e : Expr} :
    ReadsDisjunction room ts e us → (readOr room ts).1 = (e, us)
  | .of h => by rw [Query.readOr_eq, h.readConjunctions_eq]

end

/-- Every list of tokens has a reading. -/
theorem exists_reading (room : Option Nat) (ts : List Token) :
    ∃ e us, ReadsDisjunction room ts e us :=
  ⟨_, _, readOr_reads room ts⟩

theorem ReadsPrimary.unique (h : ReadsPrimary room ts e us) (h' : ReadsPrimary room ts f vs) :
    e = f ∧ us = vs :=
  Prod.mk.inj (h.readPrimary_eq.symm.trans h'.readPrimary_eq)

theorem ReadsPrimaries.unique {fs : List Expr} (h : ReadsPrimaries room ts es us)
    (h' : ReadsPrimaries room ts fs vs) : es = fs ∧ us = vs :=
  Prod.mk.inj (h.readPrimaries_eq.symm.trans h'.readPrimaries_eq)

/-- No list of tokens has two readings. -/
theorem ReadsDisjunction.unique (h : ReadsDisjunction room ts e us)
    (h' : ReadsDisjunction room ts f vs) : e = f ∧ us = vs :=
  Prod.mk.inj (h.readOr_eq.symm.trans h'.readOr_eq)

theorem ReadsDisjunction.parseWithin_eq (h : ReadsDisjunction room ts e us) :
    parseWithin room ts = ⟨e, us⟩ := by
  simp only [parseWithin, h.readOr_eq]

/-- **The reader is the reading.** -/
theorem parseWithin_eq_iff : parseWithin room ts = ⟨e, us⟩ ↔ ReadsDisjunction room ts e us := by
  constructor
  · intro h
    obtain ⟨rfl, rfl⟩ := Parsed.mk.inj h
    exact readOr_reads room ts
  · exact ReadsDisjunction.parseWithin_eq

/-- What `parse` finds is read with room for the deepest chain. -/
theorem parse_reads (ts : List Token) :
    ReadsDisjunction (some maxNesting) ts (parse ts).expr (parse ts).trailing :=
  readOr_reads (some maxNesting) ts

end Concordance.Query

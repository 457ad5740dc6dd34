import Concordance.Text.Decimal
import Concordance.Text.Space

/-!
# Cutting texts into lines and fields

What the pieces, lines and fields are of a text that is put together from known parts, and what is
known of the parts of any text. A text is solid if it can be a field: it is not empty and has no
white space.

* `cutAt_eq_some_iff`: a cut is at the first character that satisfies a test.
* **`lines_append_cons`**: a line feed ends the first line.
* **`fields_append_cons`**, **`fields_of_solid`**: white space ends the first field.
* **`solid_of_mem_fields`**: every field of every text is solid.
* `solid_toDecimal`: so is every number.
-/

namespace Concordance.Text

/-- A text that can be a field: it is not empty and has no white space. -/
def Solid (t : Text) : Prop := t ≠ [] ∧ ∀ c ∈ t, isSpace c = false

instance (t : Text) : Decidable (Solid t) :=
  decidable_of_iff ((t.isEmpty || t.any isSpace) = false) (by simp [Solid])

/-! ## Pieces -/

theorem pieces_of_none {p : Char → Bool} {a : Text} (h : ∀ c ∈ a, p c = false) :
    pieces p a = [a] := by
  induction a with
  | nil => rfl
  | cons c a ih =>
    have hc := h c List.mem_cons_self
    rw [pieces, if_neg (by simp [hc]), ih fun x hx => h x (List.mem_cons_of_mem _ hx)]

theorem pieces_of_not_mem {x : Char} {a : Text} (h : x ∉ a) : pieces (· == x) a = [a] :=
  pieces_of_none fun _ hc => beq_eq_false_iff_ne.mpr fun e => h (e ▸ hc)

/-- A separator cuts a text in two. -/
theorem pieces_append {p : Char → Bool} {x : Char} (hx : p x = true) (a b : Text) :
    pieces p (a ++ x :: b) = pieces p a ++ pieces p b := by
  induction a with
  | nil => exact if_pos hx
  | cons c a ih =>
    rw [List.cons_append, pieces, pieces, ih]
    split
    · rfl
    · cases ha : pieces p a with
      | nil => exact absurd ha (pieces_ne_nil p a)
      | cons w ws => rfl

theorem pieces_append_cons {p : Char → Bool} {a : Text} {x : Char} (h : ∀ c ∈ a, p c = false)
    (hx : p x = true) (b : Text) : pieces p (a ++ x :: b) = a :: pieces p b := by
  rw [pieces_append hx, pieces_of_none h, List.singleton_append]

/-- Texts without separators are the pieces of what they are joined to. -/
theorem pieces_join {x : Char} {l : List Text} (hne : l ≠ []) (hl : ∀ w ∈ l, x ∉ w) :
    pieces (· == x) (join [x] l) = l := by
  induction l with
  | nil => exact absurd rfl hne
  | cons w l ih =>
    have hw : ∀ c ∈ w, (c == x) = false := fun c hc =>
      beq_eq_false_iff_ne.mpr fun e => hl w List.mem_cons_self (e ▸ hc)
    cases l with
    | nil => exact pieces_of_none hw
    | cons v l =>
      change pieces (· == x) (w ++ [x] ++ join [x] (v :: l)) = w :: v :: l
      rw [List.append_assoc, List.singleton_append, pieces_append_cons hw (beq_self_eq_true x),
        ih (List.cons_ne_nil v l) fun u hu => hl u (List.mem_cons_of_mem w hu)]

/-- Joining the first texts of a list gives the start of what joining all gives. -/
theorem prefix_join (sep : Text) (a b : List Text) : join sep a <+: join sep (a ++ b) := by
  induction a with
  | nil => exact List.nil_prefix
  | cons w a ih =>
    cases a with
    | nil =>
      cases b with
      | nil => exact List.prefix_rfl
      | cons v b =>
        change w <+: w ++ sep ++ join sep (v :: b)
        rw [List.append_assoc]
        exact List.prefix_append w _
    | cons v a =>
      change w ++ sep ++ join sep (v :: a) <+: w ++ sep ++ join sep (v :: a ++ b)
      exact (List.prefix_append_right_inj _).mpr ih

/-- No piece has a character that satisfies the test. -/
theorem eq_false_of_mem_pieces {p : Char → Bool} {t w : Text} (h : w ∈ pieces p t) {c : Char}
    (hc : c ∈ w) : p c = false := by
  induction t generalizing w with
  | nil =>
    rw [pieces, List.mem_singleton] at h
    exact absurd hc (by simp [h])
  | cons d r ih =>
    unfold pieces at h
    split at h
    · rcases List.mem_cons.mp h with rfl | h
      · exact absurd hc List.not_mem_nil
      · exact ih h hc
    · rename_i hd
      cases hp : pieces p r with
      | nil => exact absurd hp (pieces_ne_nil p r)
      | cons v vs =>
        rw [hp] at h ih
        rcases List.mem_cons.mp h with rfl | h
        · rcases List.mem_cons.mp hc with rfl | hc
          · simpa using hd
          · exact ih List.mem_cons_self hc
        · exact ih (List.mem_cons_of_mem _ h) hc

/-- A cut is at the first character that satisfies the test. -/
theorem cutAt_eq_some_iff {p : Char → Bool} {t a b : Text} :
    cutAt p t = some (a, b) ↔ ∃ x, t = a ++ x :: b ∧ p x = true ∧ ∀ c ∈ a, p c = false := by
  induction t generalizing a with
  | nil => simp [cutAt]
  | cons c t ih =>
    unfold cutAt
    split
    · rename_i hc
      constructor
      · rintro h
        cases h
        exact ⟨c, rfl, hc, nofun⟩
      · rintro ⟨x, heq, -, ha⟩
        cases a with
        | nil => cases heq; rfl
        | cons d a => cases heq; exact absurd hc (by simp [ha c List.mem_cons_self])
    · rename_i hc
      rw [Option.map_eq_some_iff]
      constructor
      · rintro ⟨⟨a', b'⟩, hcut, heq⟩
        cases heq
        obtain ⟨x, rfl, hx, ha⟩ := ih.mp hcut
        exact ⟨x, rfl, hx, List.forall_mem_cons.mpr ⟨Bool.eq_false_iff.mpr hc, ha⟩⟩
      · rintro ⟨x, heq, hx, ha⟩
        cases a with
        | nil => cases heq; exact absurd hx hc
        | cons d a =>
          cases heq
          exact ⟨(a, b), ih.mpr ⟨x, rfl, hx, (List.forall_mem_cons.mp ha).2⟩, rfl⟩

theorem cutAt_eq_none_iff {p : Char → Bool} {t : Text} :
    cutAt p t = none ↔ ∀ c ∈ t, p c = false := by
  induction t with
  | nil => simp [cutAt]
  | cons c t ih =>
    rw [List.forall_mem_cons, ← ih, cutAt]
    split <;> simp_all

/-- A cut at a character. -/
theorem cutAt_beq_eq_some_iff {x : Char} {t a b : Text} :
    cutAt (· == x) t = some (a, b) ↔ t = a ++ x :: b ∧ x ∉ a := by
  rw [cutAt_eq_some_iff]
  constructor
  · rintro ⟨y, rfl, hy, ha⟩
    rw [beq_iff_eq] at hy
    subst hy
    exact ⟨rfl, fun hx => Bool.false_ne_true ((ha y hx).symm.trans (beq_self_eq_true y))⟩
  · rintro ⟨rfl, ha⟩
    exact ⟨x, rfl, beq_self_eq_true x, fun c hc => beq_eq_false_iff_ne.mpr fun e => ha (e ▸ hc)⟩

theorem cutAt_beq_eq_none_iff {x : Char} {t : Text} : cutAt (· == x) t = none ↔ x ∉ t := by
  rw [cutAt_eq_none_iff]
  exact ⟨fun h hx => Bool.false_ne_true ((h x hx).symm.trans (beq_self_eq_true x)),
    fun h c hc => beq_eq_false_iff_ne.mpr fun e => h (e ▸ hc)⟩

theorem dropLead_eq_some_iff {lead t r : Text} : dropLead lead t = some r ↔ t = lead ++ r := by
  fun_induction dropLead lead t with
  | case1 => simp
  | case2 => simp
  | case3 lead c t ih => simp [ih]
  | case4 a lead c t hne => simp [Ne.symm hne]

/-- What follows a cut is part of the text. -/
theorem subset_of_cutAt {p : Char → Bool} {t a b : Text} (h : cutAt p t = some (a, b)) :
    b ⊆ t := by
  obtain ⟨x, rfl, -, -⟩ := cutAt_eq_some_iff.mp h
  exact fun c hc => List.mem_append_right a (List.mem_cons_of_mem x hc)

/-! ## Lines -/

/-- Lines, or whatever is read one after another, all have a property, or there is a first without
it. -/
theorem all_or_first {α : Type} (P : α → Prop) (l : List α) : (∀ a ∈ l, P a) ∨
    ∃ before a after, l = before ++ a :: after ∧ (∀ b ∈ before, P b) ∧ ¬ P a := by
  induction l with
  | nil => exact .inl nofun
  | cons a l ih =>
    by_cases ha : P a
    · rcases ih with h | ⟨before, b, after, rfl, hbefore, hb⟩
      · exact .inl (List.forall_mem_cons.mpr ⟨ha, h⟩)
      · exact .inr ⟨a :: before, b, after, rfl, List.forall_mem_cons.mpr ⟨ha, hbefore⟩, hb⟩
    · exact .inr ⟨[], a, l, rfl, nofun, ha⟩

theorem dropReturn_of_not_mem {t : Text} (h : '\r' ∉ t) : dropReturn t = t := by
  induction t with
  | nil => rfl
  | cons c r ih =>
    rw [dropReturn, ih fun hr => h (List.mem_cons_of_mem _ hr)]
    rintro rfl -
    exact h List.mem_cons_self

theorem linesOf_cons (t : Text) {ps : List Text} (h : ps ≠ []) :
    linesOf (t :: ps) = dropReturn t :: linesOf ps := by
  cases ps with
  | nil => exact absurd rfl h
  | cons p ps => rfl

@[simp] theorem lines_nil : lines [] = [] := rfl

/-- **A line feed ends the first line.** -/
theorem lines_append_cons {a : Text} (h : '\n' ∉ a) (b : Text) :
    lines (a ++ '\n' :: b) = dropReturn a :: lines b := by
  have hp : ∀ c ∈ a, (c == '\n') = false := by
    intro c hc
    rw [beq_eq_false_iff_ne]
    rintro rfl
    exact h hc
  rw [lines, pieces_append_cons hp rfl, linesOf_cons _ (pieces_ne_nil _ b), lines]

theorem dropReturn_subset (t : Text) : dropReturn t ⊆ t := by
  fun_induction dropReturn t with
  | case1 => exact List.nil_subset _
  | case2 => exact List.nil_subset _
  | case3 c r _ ih => exact List.cons_subset_cons c ih

theorem exists_of_mem_linesOf {ps : List Text} {line : Text} (h : line ∈ linesOf ps) :
    ∃ p ∈ ps, line ⊆ p := by
  induction ps with
  | nil => cases h
  | cons p ps ih =>
    cases ps with
    | nil =>
      unfold linesOf at h
      split at h
      · cases h
      · exact ⟨p, List.mem_cons_self, List.mem_singleton.mp h ▸ List.Subset.refl p⟩
    | cons q ps =>
      rcases List.mem_cons.mp h with rfl | h
      · exact ⟨p, List.mem_cons_self, dropReturn_subset p⟩
      · obtain ⟨r, hr, hline⟩ := ih h
        exact ⟨r, List.mem_cons_of_mem p hr, hline⟩

/-- No line has a line feed. -/
theorem not_mem_of_mem_lines {t line : Text} (h : line ∈ lines t) : '\n' ∉ line := by
  obtain ⟨p, hp, hline⟩ := exists_of_mem_linesOf h
  intro hmem
  exact Bool.false_ne_true ((eq_false_of_mem_pieces hp (hline hmem)).symm.trans rfl)

/-! ## Fields -/

/-- A solid text without what follows it is its only field. -/
theorem fields_of_solid {a : Text} (h : Solid a) : fields a = [a] := by
  rw [fields, pieces_of_none h.2]
  simp [h.1]

/-- **White space ends the first field.** -/
theorem fields_append_cons {a : Text} (h : Solid a) {x : Char} (hx : isSpace x = true) (b : Text) :
    fields (a ++ x :: b) = a :: fields b := by
  rw [fields, pieces_append_cons h.2 hx, fields]
  simp [h.1]

/-- **Every field is solid.** -/
theorem solid_of_mem_fields {t w : Text} (h : w ∈ fields t) : Solid w := by
  obtain ⟨hp, hne⟩ := List.mem_filter.mp h
  refine ⟨fun e => ?_, fun c hc => eq_false_of_mem_pieces hp hc⟩
  rw [e] at hne
  exact absurd hne (by decide)

/-! ## Numbers -/

theorem isSpace_of_isDigit {c : Char} (h : c.isDigit = true) : isSpace c = false := by
  rw [Bool.eq_false_iff]
  intro hs
  obtain ⟨g, hg, h1, h2⟩ := (CodeRanges.contains_iff (by decide) _).mp hs
  have hout : ∀ g ∈ spaceRanges, g.2 < 48 ∨ 57 < g.1 := by decide
  have hdigit : 48 ≤ c.toNat ∧ c.toNat ≤ 57 := Char.isDigit_iff_toNat.mp h
  have := hout g hg
  omega

theorem solid_toDecimal (n : Nat) : Solid (toDecimal n) := by
  have h := isDigits_toDecimal n
  simp only [isDigits, Bool.and_eq_true, Bool.not_eq_true', List.isEmpty_eq_false_iff,
    List.all_eq_true] at h
  exact ⟨h.1, fun c hc => isSpace_of_isDigit (h.2 c hc)⟩

theorem not_mem_toDecimal (n : Nat) {c : Char} (hc : isSpace c = true) : c ∉ toDecimal n :=
  fun hmem => Bool.false_ne_true (((solid_toDecimal n).2 c hmem).symm.trans hc)

end Concordance.Text

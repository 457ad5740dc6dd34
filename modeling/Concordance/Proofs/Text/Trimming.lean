import Concordance.Proofs.Text.Cutting

/-!
# Texts without the white space around them

Trimming a text takes away what is blank at its two ends and nothing else, which says already what
is left: there is one way only to take blank texts away at both ends so that neither end of the rest
is white space.

* **`trim_eq_iff`**: what trimming leaves.
* `trim_append_cons`: a separator is kept where something is left on both sides of it.
* `trim_of_solid`: a solid text is left as it is.
-/

namespace Concordance.Text

variable {a b t w : Text}

/-- A text that neither starts nor ends with white space. -/
structure Trimmed (t : Text) : Prop where
  head : ∀ c, t.head? = some c → isSpace c = false
  last : ∀ c, t.getLast? = some c → isSpace c = false

theorem isBlank_iff : isBlank t = true ↔ ∀ c ∈ t, isSpace c = true := List.all_eq_true

theorem isBlank_append : isBlank (a ++ b) = (isBlank a && isBlank b) := List.all_append

/-! ## What is taken away -/

theorem trim_append_left (ha : isBlank a = true) (t : Text) : trim (a ++ t) = trim t := by
  rw [trim, trimStart, List.dropWhile_append_of_pos (isBlank_iff.mp ha)]
  rfl

theorem trimEnd_append (hb : isBlank b = true) (t : Text) : trimEnd (t ++ b) = trimEnd t := by
  have hreverse : ∀ c ∈ b.reverse, isSpace c = true := fun c hc =>
    isBlank_iff.mp hb c (List.mem_reverse.mp hc)
  rw [trimEnd, List.reverse_append, List.dropWhile_append_of_pos hreverse, trimEnd]

theorem dropWhile_of_isBlank (hb : isBlank b = true) : b.dropWhile isSpace = [] := by
  rw [← List.append_nil b, List.dropWhile_append_of_pos (isBlank_iff.mp hb), List.dropWhile_nil]

theorem trim_append_right (hb : isBlank b = true) (t : Text) : trim (t ++ b) = trim t := by
  unfold trim trimStart
  rw [List.dropWhile_append]
  split
  · rename_i hblank
    rw [List.isEmpty_iff.mp hblank, dropWhile_of_isBlank hb]
  · exact trimEnd_append hb _

/-- Trimming a text takes away blank texts at its ends. -/
theorem exists_trim (t : Text) :
    ∃ a b, isBlank a = true ∧ isBlank b = true ∧ t = a ++ (trim t ++ b) := by
  have hstart : t.takeWhile isSpace ++ trimStart t = t := List.takeWhile_append_dropWhile
  have hend : trim t ++ ((trimStart t).reverse.takeWhile isSpace).reverse = trimStart t := by
    rw [trim, trimEnd, ← List.reverse_append, List.takeWhile_append_dropWhile,
      List.reverse_reverse]
  refine ⟨_, _, List.all_takeWhile, ?_, (hend.symm ▸ hstart).symm⟩
  rw [isBlank, List.all_reverse, List.all_takeWhile]

/-! ## What is left -/

theorem isSpace_of_head?_dropWhile {c : Char} (h : (t.dropWhile isSpace).head? = some c) :
    isSpace c = false := by
  have hnot := List.head?_dropWhile_not isSpace t
  rwa [h] at hnot

theorem dropWhile_eq_self (h : ∀ c, t.head? = some c → isSpace c = false) :
    t.dropWhile isSpace = t := by
  cases t with
  | nil => rfl
  | cons c t => rw [List.dropWhile_cons_of_neg (by simp [h c rfl])]

theorem trimmed_trim (t : Text) : Trimmed (trim t) where
  head c hc := by
    -- What is left at the end starts as what was left at the start.
    have hpre : trim t <+: trimStart t := by
      rw [trim, trimEnd, ← List.reverse_suffix, List.reverse_reverse]
      exact List.dropWhile_suffix isSpace
    obtain ⟨rest, hrest⟩ := hpre
    refine isSpace_of_head?_dropWhile (t := t) ?_
    rw [← trimStart, ← hrest, List.head?_append, hc]
    rfl
  last c hc := by
    rw [trim, trimEnd, List.getLast?_reverse] at hc
    exact isSpace_of_head?_dropWhile hc

theorem Trimmed.trim_eq (h : Trimmed t) : trim t = t := by
  rw [trim, trimStart, dropWhile_eq_self h.head, trimEnd, dropWhile_eq_self, List.reverse_reverse]
  intro c hc
  exact h.last c (List.head?_reverse ▸ hc)

/-- **What trimming leaves** neither starts nor ends with white space, and what it takes away is
blank. -/
theorem trim_eq_iff :
    trim t = w ↔ Trimmed w ∧ ∃ a b, isBlank a = true ∧ isBlank b = true ∧ t = a ++ (w ++ b) := by
  constructor
  · rintro rfl
    exact ⟨trimmed_trim t, exists_trim t⟩
  · rintro ⟨hw, a, b, ha, hb, rfl⟩
    rw [trim_append_left ha, trim_append_right hb, hw.trim_eq]

theorem trim_subset (t : Text) : trim t ⊆ t := by
  obtain ⟨a, b, -, -, h⟩ := exists_trim t
  intro c hc
  rw [h]
  exact List.mem_append_right a (List.mem_append_left b hc)

theorem trim_eq_nil_iff : trim t = [] ↔ isBlank t = true := by
  constructor
  · intro h
    obtain ⟨a, b, ha, hb, ht⟩ := exists_trim t
    rw [ht, h, List.nil_append, isBlank_append, ha, hb]
    rfl
  · intro h
    rw [← List.append_nil t, trim_append_left h]
    rfl

theorem trim_of_solid (h : Solid t) : trim t = t :=
  Trimmed.trim_eq ⟨fun c hc => h.2 c (List.mem_of_head? hc),
    fun c hc => h.2 c (List.mem_of_getLast? hc)⟩

/-- A separator with something on both sides of it is kept, and so is what trimming leaves of what
comes before it. -/
theorem trim_append_cons (ha : isBlank a = false) (hb : isBlank b = false) (x : Char) :
    ∃ a' b', trim (a ++ x :: b) = a' ++ x :: b' ∧ a' ⊆ a ∧ trim a' = trim a := by
  obtain ⟨a₁, a₂, ha₁, ha₂, haeq⟩ := exists_trim a
  obtain ⟨b₁, b₂, hb₁, hb₂, hbeq⟩ := exists_trim b
  have hane : trim a ≠ [] := fun h => Bool.false_ne_true (ha ▸ trim_eq_nil_iff.mp h)
  have hbne : trim b ≠ [] := fun h => Bool.false_ne_true (hb ▸ trim_eq_nil_iff.mp h)
  refine ⟨trim a ++ a₂, b₁ ++ trim b, trim_eq_iff.mpr ⟨⟨?_, ?_⟩, a₁, b₂, ha₁, hb₂, ?_⟩, ?_, ?_⟩
  · intro c hc
    rw [List.append_assoc, List.head?_append,
      Option.or_of_isSome (List.isSome_head?.mpr hane)] at hc
    exact (trimmed_trim a).head c hc
  · intro c hc
    rw [← List.cons_append, ← List.append_assoc, List.getLast?_append,
      Option.or_of_isSome (List.getLast?_isSome.mpr hbne)] at hc
    exact (trimmed_trim b).last c hc
  · have hsplit : a ++ x :: b = a₁ ++ (trim a ++ a₂) ++ x :: (b₁ ++ (trim b ++ b₂)) := by
      rw [← haeq, ← hbeq]
    rw [hsplit]
    simp only [List.append_assoc, List.cons_append]
  · intro c hc
    rw [haeq]
    exact List.mem_append_right a₁ hc
  · rw [trim_append_right ha₂, (trimmed_trim a).trim_eq]

end Concordance.Text

import Concordance.Text.Lower
import Concordance.Text.Space

/-!
# Laws of lower-casing

The laws hold of the table of capital letters, so they are decided on it: run against run, no small
letter of the table is a capital letter of it, and range against run, none is white space, a capital
I with dot or a surrogate. Two runs overlap only where capital and small letters alternate, and are
told apart by parity there.

Texts follow character by character. A small character (`IsSmall`) is one that lower-casing leaves
as it is, whatever stands beside it; the context of a capital sigma decides between two of them.

* **`lower_eq_self_iff`**: the texts that lower-casing leaves as they are, are those of small
  characters.
* **`lower_lower`**: lower-casing again changes nothing.
* **`isSpace_of_mem_lower`**, **`lower_eq_nil_iff`**: it makes no white space and drops no text.
-/

namespace Concordance.Text

/-! ## The table of capital letters -/

namespace LowerRun

/-- A code point is a capital letter of a run. -/
def Has (r : LowerRun) (n : Nat) : Prop :=
  r.first ≤ n ∧ n ≤ r.last ∧ (n - r.first) % r.step = 0

/-- The code point under which all small letters of a run are. -/
def lastSmall (r : LowerRun) : Nat := r.small + (r.last - r.first)

/-- No small letter of the first run is a capital letter of the second, by their ends or by parity. -/
def apart (r s : LowerRun) : Bool :=
  Nat.blt r.lastSmall s.first || Nat.blt s.last r.small ||
    (Nat.beq s.step 2 && (Nat.beq r.step 2 || Nat.beq r.first r.last) &&
      Nat.beq ((r.small + s.first) % 2) 1)

/-- No small letter of a run is in a range. -/
def outside (r : LowerRun) (g : Nat × Nat) : Bool :=
  Nat.blt r.lastSmall g.1 || Nat.blt g.2 r.small

theorem not_has_of_apart {r s : LowerRun} (h : r.apart s = true) {n : Nat} (hn : r.Has n) :
    ¬ s.Has (r.small + (n - r.first)) := by
  rintro ⟨h1, h2, h3⟩
  obtain ⟨hlo, hhi, hstep⟩ := hn
  simp only [apart, lastSmall, Bool.or_eq_true, Bool.and_eq_true, Nat.blt_eq, Nat.beq_eq] at h
  rcases h with (h | h) | ⟨⟨hs, hr⟩, hpar⟩
  · omega
  · omega
  · rw [hs] at h3
    rcases hr with hr | hr
    · rw [hr] at hstep
      omega
    · omega

theorem not_mem_of_outside {r : LowerRun} {g : Nat × Nat} (h : r.outside g = true) {n : Nat}
    (hn : r.Has n) : ¬ (g.1 ≤ r.small + (n - r.first) ∧ r.small + (n - r.first) ≤ g.2) := by
  obtain ⟨hlo, hhi, -⟩ := hn
  simp only [outside, lastSmall, Bool.or_eq_true, Nat.blt_eq] at h
  omega

end LowerRun

theorem lowerCode_eq_self {n : Nat} {rs : List LowerRun} (h : ∀ r ∈ rs, ¬ r.Has n) :
    lowerCode n rs = n := by
  induction rs with
  | nil => rfl
  | cons r rs ih =>
    have hr := h r List.mem_cons_self
    unfold lowerCode
    split
    · rfl
    · split
      · rename_i h1 h2
        rw [if_neg fun h3 => hr ⟨Nat.le_of_not_lt h1, h2, h3⟩]
      · exact ih fun s hs => h s (List.mem_cons_of_mem _ hs)

theorem lowerCode_cases (n : Nat) (rs : List LowerRun) :
    lowerCode n rs = n ∨ ∃ r ∈ rs, r.Has n ∧ lowerCode n rs = r.small + (n - r.first) := by
  induction rs with
  | nil => exact Or.inl rfl
  | cons r rs ih =>
    unfold lowerCode
    split
    · exact Or.inl rfl
    · rename_i h1
      split
      · rename_i h2
        split
        · rename_i h3
          exact Or.inr ⟨r, List.mem_cons_self, ⟨Nat.le_of_not_lt h1, h2, h3⟩, rfl⟩
        · exact Or.inl rfl
      · rcases ih with h | ⟨s, hs, h⟩
        · exact Or.inl h
        · exact Or.inr ⟨s, List.mem_cons_of_mem _ hs, h⟩

/-- The ranges without small letters: white space, the capital I with dot, surrogates. -/
def unusedRanges : CodeRanges := spaceRanges ++ [(0x130, 0x130), (0xD800, 0xDFFF)]

theorem apart_of_mem {r s : LowerRun} (hr : r ∈ lowerRuns) (hs : s ∈ lowerRuns) :
    r.apart s = true := by
  have h : lowerRuns.all (fun r => lowerRuns.all r.apart) = true := by decide +kernel
  exact List.all_eq_true.mp (List.all_eq_true.mp h r hr) s hs

theorem outside_of_mem {r : LowerRun} (hr : r ∈ lowerRuns) {g : Nat × Nat} (hg : g ∈ unusedRanges) :
    r.outside g = true := by
  have h : lowerRuns.all (fun r => unusedRanges.all r.outside) = true := by decide
  exact List.all_eq_true.mp (List.all_eq_true.mp h r hr) g hg

theorem lastSmall_lt_of_mem {r : LowerRun} (hr : r ∈ lowerRuns) : r.lastSmall < 0x110000 := by
  have h : lowerRuns.all (fun r => Nat.blt r.lastSmall 0x110000) = true := by decide
  exact Nat.blt_eq.mp (List.all_eq_true.mp h r hr)

/-! ## One character -/

/-- The small letter of a capital letter is a character. -/
theorem isValidChar_small {r : LowerRun} (hr : r ∈ lowerRuns) {n : Nat} (hn : r.Has n) :
    (r.small + (n - r.first)).isValidChar := by
  have h1 := LowerRun.not_mem_of_outside
    (outside_of_mem hr (g := (0xD800, 0xDFFF)) (by simp [unusedRanges])) hn
  have h2 := lastSmall_lt_of_mem hr
  obtain ⟨-, hhi, -⟩ := hn
  simp only [LowerRun.lastSmall] at h2
  simp only [Nat.isValidChar]
  omega

/-- A character is its own small letter, or is a capital letter of a run. -/
theorem lowerChar_cases (c : Char) :
    lowerChar c = c ∨ ∃ r ∈ lowerRuns, r.Has c.toNat ∧
      (lowerChar c).toNat = r.small + (c.toNat - r.first) := by
  unfold lowerChar
  rcases lowerCode_cases c.toNat lowerRuns with h | ⟨r, hr, hn, h⟩
  · rw [h]
    exact Or.inl (Char.ofNat_toNat c)
  · rw [h]
    refine Or.inr ⟨r, hr, hn, ?_⟩
    rw [Char.ofNat, dif_pos (isValidChar_small hr hn)]
    rfl

/-- The small letter of a character is its own small letter. -/
theorem lowerChar_lowerChar (c : Char) : lowerChar (lowerChar c) = lowerChar c := by
  rcases lowerChar_cases c with h | ⟨r, hr, hn, h⟩
  · rw [h, h]
  · have hself : lowerCode (lowerChar c).toNat lowerRuns = (lowerChar c).toNat := by
      refine lowerCode_eq_self fun s hs => ?_
      rw [h]
      exact LowerRun.not_has_of_apart (apart_of_mem hr hs) hn
    show Char.ofNat (lowerCode (lowerChar c).toNat lowerRuns) = lowerChar c
    rw [hself, Char.ofNat_toNat]

/-- A character whose small letter is in one of the ranges without small letters is there itself. -/
theorem lowerChar_eq_self_of_unused {c : Char} {g : Nat × Nat} (hg : g ∈ unusedRanges)
    (h1 : g.1 ≤ (lowerChar c).toNat) (h2 : (lowerChar c).toNat ≤ g.2) : lowerChar c = c := by
  rcases lowerChar_cases c with h | ⟨r, hr, hn, h⟩
  · exact h
  · rw [h] at h1 h2
    exact absurd ⟨h1, h2⟩ (LowerRun.not_mem_of_outside (outside_of_mem hr hg) hn)

theorem isSpace_of_isSpace_lowerChar {c : Char} (h : isSpace (lowerChar c) = true) :
    isSpace c = true := by
  obtain ⟨g, hg, h1, h2⟩ := (CodeRanges.contains_iff (by decide) _).mp h
  rw [← lowerChar_eq_self_of_unused (List.mem_append_left _ hg) h1 h2]
  exact h

/-- A character that lower-casing leaves as it is, whatever stands beside it. -/
def IsSmall (c : Char) : Prop := c ≠ 'Σ' ∧ c ≠ 'İ' ∧ lowerChar c = c

instance (c : Char) : Decidable (IsSmall c) := by
  unfold IsSmall
  infer_instance

theorem isSmall_lowerChar {c : Char} (hc : c ≠ 'İ') : IsSmall (lowerChar c) := by
  refine ⟨fun h => ?_, fun h => ?_, lowerChar_lowerChar c⟩
  · have hs : lowerChar 'Σ' = 'Σ' := by rw [← h, lowerChar_lowerChar]
    exact absurd hs (by decide)
  · have hself : lowerChar c = c := by
      refine lowerChar_eq_self_of_unused (g := (0x130, 0x130)) (by simp [unusedRanges]) ?_ ?_ <;>
        rw [h] <;> decide
    exact hc (hself.symm.trans h)

/-! ## A text -/

theorem lowerBetween_of_isSmall {c : Char} (h : IsSmall c) (before after : Text) :
    lowerBetween before c after = [c] := by
  obtain ⟨h1, h2, h3⟩ := h
  rw [lowerBetween, if_neg h1, if_neg h2, h3]

theorem isSmall_of_mem_lowerBetween {before after : Text} {c x : Char}
    (h : x ∈ lowerBetween before c after) : IsSmall x := by
  unfold lowerBetween at h
  split at h
  · rcases List.mem_singleton.mp h with rfl
    split <;> decide
  · split at h
    · rcases List.mem_cons.mp h with rfl | h
      · decide
      · rcases List.mem_singleton.mp h with rfl
        decide
    · rename_i hne
      rcases List.mem_singleton.mp h with rfl
      exact isSmall_lowerChar hne

theorem isSpace_of_mem_lowerBetween {before after : Text} {c x : Char}
    (h : x ∈ lowerBetween before c after) (hx : isSpace x = true) : isSpace c = true := by
  unfold lowerBetween at h
  split at h
  · rcases List.mem_singleton.mp h with rfl
    split at hx <;> exact absurd hx (by decide)
  · split at h
    · rcases List.mem_cons.mp h with rfl | h
      · exact absurd hx (by decide)
      · rcases List.mem_singleton.mp h with rfl
        exact absurd hx (by decide)
    · rcases List.mem_singleton.mp h with rfl
      exact isSpace_of_isSpace_lowerChar hx

theorem lowerBetween_ne_nil (before : Text) (c : Char) (after : Text) :
    lowerBetween before c after ≠ [] := by
  unfold lowerBetween
  split
  · simp
  · split <;> simp

theorem lowerAfter_of_isSmall {t : Text} (h : ∀ c ∈ t, IsSmall c) (before : Text) :
    lowerAfter before t = t := by
  induction t generalizing before with
  | nil => rfl
  | cons c r ih =>
    rw [lowerAfter, lowerBetween_of_isSmall (h c List.mem_cons_self),
      ih fun x hx => h x (List.mem_cons_of_mem _ hx)]
    rfl

/-- What is in the lower-case form of a text is in the lower-case form of one of its characters. -/
theorem exists_of_mem_lowerAfter {t before : Text} {x : Char} (h : x ∈ lowerAfter before t) :
    ∃ c ∈ t, ∃ b a, x ∈ lowerBetween b c a := by
  induction t generalizing before with
  | nil => exact absurd h List.not_mem_nil
  | cons c r ih =>
    rcases List.mem_append.mp h with h | h
    · exact ⟨c, List.mem_cons_self, before, r, h⟩
    · obtain ⟨d, hd, hx⟩ := ih h
      exact ⟨d, List.mem_cons_of_mem _ hd, hx⟩

theorem isSmall_of_mem_lower {t : Text} {x : Char} (h : x ∈ lower t) : IsSmall x := by
  obtain ⟨c, -, b, a, hx⟩ := exists_of_mem_lowerAfter h
  exact isSmall_of_mem_lowerBetween hx

/-- **The texts that lower-casing leaves as they are**, are those of small characters. -/
theorem lower_eq_self_iff {t : Text} : lower t = t ↔ ∀ c ∈ t, IsSmall c := by
  constructor
  · intro h c hc
    rw [← h] at hc
    exact isSmall_of_mem_lower hc
  · intro h
    exact lowerAfter_of_isSmall h []

/-- **Lower-casing again changes nothing.** -/
theorem lower_lower (t : Text) : lower (lower t) = lower t :=
  lower_eq_self_iff.mpr fun _ hc => isSmall_of_mem_lower hc

/-- White space in the lower-case form of a text was in the text. -/
theorem isSpace_of_mem_lower {t : Text} {x : Char} (h : x ∈ lower t) (hx : isSpace x = true) :
    ∃ c ∈ t, isSpace c = true := by
  obtain ⟨c, hc, b, a, hm⟩ := exists_of_mem_lowerAfter h
  exact ⟨c, hc, isSpace_of_mem_lowerBetween hm hx⟩

theorem lower_eq_nil_iff {t : Text} : lower t = [] ↔ t = [] := by
  cases t with
  | nil => exact iff_of_true rfl rfl
  | cons c r =>
    refine iff_of_false (fun h => ?_) (List.cons_ne_nil _ _)
    exact lowerBetween_ne_nil [] c r (List.append_eq_nil_iff.mp h).1

end Concordance.Text

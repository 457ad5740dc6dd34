import Concordance.Text.Alphanumeric
import Concordance.Proofs.Text.Lower

/-!
# Lower-casing and the letters of words

What lower-casing does to the characters that the reading of words looks at: ASCII letters, and
characters that belong to a word or not. One capital letter outside of ASCII has a small letter in
ASCII, the Kelvin sign with `k`, so an ASCII character but `k` is the small letter of ASCII
characters alone. The tables decide it, as they decide that small letters are letters.

* **`lowerChar_eq_iff_toLower`**: lower-casing gives an ASCII character but `k` where the ASCII rule
  does.
* **`isWordChar_lowerChar`**: it keeps the characters that belong to a word.
* **`mem_of_mem_lower`**: it makes no character that comes before the small letters.
* **`toLower_eq_of_lowerBetween`**: in a text, too, it makes ASCII letters but `i` and `k` of their
  capitals alone.
-/

namespace Concordance.Text

variable {c x : Char}

/-! ## ASCII -/

theorem lowerChar_of_lt (h : c.toNat < 128) : lowerChar c = c.toLower := by
  have htable : ∀ n < 128, Char.ofNat (lowerCode n lowerRuns) = (Char.ofNat n).toLower := by
    decide
  have hc := htable c.toNat h
  rwa [Char.ofNat_toNat] at hc

/-- The ASCII rule changes ASCII characters alone. -/
theorem lt_of_toLower_lt (h : c.toLower.toNat < 128) : c.toNat < 128 := by
  unfold Char.toLower at h
  split at h
  · rename_i hc
    have hle : c.toNat ≤ 90 := UInt32.le_iff_toNat_le.mp hc.2
    omega
  · exact h

theorem toLower_of_le (h : 128 ≤ c.toNat) : c.toLower = c := by
  unfold Char.toLower
  split
  · rename_i hc
    have hle : c.toNat ≤ 90 := UInt32.le_iff_toNat_le.mp hc.2
    omega
  · rfl

/-- What does not tell the ASCII letters of either case apart, tells no character from what the
ASCII rule makes of it. -/
theorem apply_toLower {α : Type} (f : Char → α)
    (htable : ∀ n < 128, f (Char.ofNat n).toLower = f (Char.ofNat n)) (c : Char) :
    f c.toLower = f c := by
  by_cases h : c.toNat < 128
  · have hc := htable c.toNat h
    rwa [Char.ofNat_toNat] at hc
  · rw [toLower_of_le (Nat.le_of_not_lt h)]

/-- No small letter of a run after the first is in ASCII, but for one `k`. -/
theorem outside_ascii {r : LowerRun} (hr : r ∈ lowerRuns.tail) :
    r.outside (0, 0x6A) = true ∧ r.outside (0x6C, 0x7F) = true := by
  have h : (lowerRuns.tail.all fun r => r.outside (0, 0x6A) && r.outside (0x6C, 0x7F)) = true := by
    decide
  exact Bool.and_eq_true_iff.mp (List.all_eq_true.mp h r hr)

/-- A character whose small letter is an ASCII character but `k` is in ASCII itself. -/
theorem lt_of_lowerChar_lt (h : (lowerChar c).toNat < 128) (hk : lowerChar c ≠ 'k') :
    c.toNat < 128 := by
  rcases lowerChar_cases c with hself | ⟨r, hr, hn, hsmall⟩
  · rwa [hself] at h
  · rcases List.mem_cons.mp hr with rfl | hr
    · have hle := hn.2.1
      simp only at hle
      omega
    · have hout := outside_ascii hr
      have h1 := LowerRun.not_mem_of_outside hout.1 hn
      have h2 := LowerRun.not_mem_of_outside hout.2 hn
      have hne : (lowerChar c).toNat ≠ 0x6B := fun he => hk (Char.toNat_inj.mp he)
      omega

/-- **Lower-casing and ASCII**: a character has an ASCII character but `k` as its small letter where
it has it by the ASCII rule. -/
theorem lowerChar_eq_iff_toLower (hx : x.toNat < 128) (hk : x ≠ 'k') :
    lowerChar c = x ↔ c.toLower = x := by
  constructor
  · rintro rfl
    exact (lowerChar_of_lt (lt_of_lowerChar_lt hx hk)).symm
  · rintro rfl
    exact lowerChar_of_lt (lt_of_toLower_lt hx)

/-! ## Characters of words -/

theorem ascending_alphanumericRanges : alphanumericRanges.Ascending :=
  CodeRanges.ascending_of_ascendsFrom (n := 0) (by decide +kernel)

/-- The small letters of a run are in one range of letters. -/
theorem exists_alphanumeric_range {r : LowerRun} (hr : r ∈ lowerRuns) :
    ∃ g ∈ alphanumericRanges, g.1 ≤ r.small ∧ r.lastSmall ≤ g.2 := by
  have h : (lowerRuns.all fun r => alphanumericRanges.any fun g =>
      Nat.ble g.1 r.small && Nat.ble r.lastSmall g.2) = true := by
    decide +kernel
  obtain ⟨g, hg, hle⟩ := List.any_eq_true.mp (List.all_eq_true.mp h r hr)
  rw [Bool.and_eq_true, Nat.ble_eq, Nat.ble_eq] at hle
  exact ⟨g, hg, hle⟩

/-- **The small letter of a character of a word belongs to a word.** -/
theorem isWordChar_lowerChar (h : isWordChar c = true) : isWordChar (lowerChar c) = true := by
  rcases lowerChar_cases c with hself | ⟨r, hr, hn, hsmall⟩
  · rwa [hself]
  · obtain ⟨g, hg, hlo, hhi⟩ := exists_alphanumeric_range hr
    have hle := hn.2.1
    rw [LowerRun.lastSmall] at hhi
    have halpha : isAlphanumeric (lowerChar c) = true := by
      refine (CodeRanges.contains_iff ascending_alphanumericRanges _).mpr ⟨g, hg, ?_, ?_⟩ <;> omega
    rw [isWordChar, halpha, Bool.true_or]

/-- Capital and small ASCII letters belong to words alike. -/
theorem isWordChar_toLower (c : Char) : isWordChar c.toLower = isWordChar c :=
  apply_toLower isWordChar (by decide) c

/-! ## A character in a text -/

/-- The lower-case form of a character of a word starts with a character of a word. -/
theorem isWordChar_of_lowerBetween {before after rest : Text} (hc : isWordChar c = true)
    (h : lowerBetween before c after = x :: rest) : isWordChar x = true := by
  unfold lowerBetween at h
  split at h
  · obtain ⟨rfl, -⟩ := List.cons.inj h
    split <;> decide
  · split at h
    · obtain ⟨rfl, -⟩ := List.cons.inj h
      decide
    · obtain ⟨rfl, -⟩ := List.cons.inj h
      exact isWordChar_lowerChar hc

/-- Characters before the small letters stand for themselves alone. -/
theorem lowerChar_eq_self_of_lt (h : (lowerChar c).toNat < 0x61) : lowerChar c = c := by
  rcases lowerChar_cases c with hself | ⟨r, hr, hn, hsmall⟩
  · exact hself
  · have hfirst : (lowerRuns.all fun r => Nat.ble 0x61 r.small) = true := by decide
    have hle := Nat.ble_eq.mp (List.all_eq_true.mp hfirst r hr)
    omega

theorem eq_of_mem_lowerBetween {before after : Text} (h : x ∈ lowerBetween before c after)
    (hx : x.toNat < 0x61) : x = c := by
  unfold lowerBetween at h
  split at h
  · rcases List.mem_singleton.mp h with rfl
    split at hx <;> exact absurd hx (by decide)
  · split at h
    · rcases List.mem_cons.mp h with rfl | h
      · exact absurd hx (by decide)
      · rcases List.mem_singleton.mp h with rfl
        exact absurd hx (by decide)
    · rcases List.mem_singleton.mp h with rfl
      exact lowerChar_eq_self_of_lt hx

/-- **Lower-casing makes no character** that comes before the small letters. -/
theorem mem_of_mem_lower {t : Text} (h : x ∈ lower t) (hx : x.toNat < 0x61) : x ∈ t := by
  obtain ⟨c, hc, b, a, hm⟩ := exists_of_mem_lowerAfter h
  rwa [eq_of_mem_lowerBetween hm hx]

/-- An ASCII character that lower-casing makes of ASCII characters alone: it makes `k` of the Kelvin
sign too, and `i` of a capital I with dot. -/
def IsPlain (x : Char) : Prop := x.toNat < 128 ∧ x ≠ 'k' ∧ x ≠ 'i'

instance (x : Char) : Decidable (IsPlain x) := by
  unfold IsPlain
  infer_instance

/-- The ASCII rule makes a plain character of what lower-casing makes of a character, only where it
makes it of the character itself. -/
theorem toLower_eq_of_lowerBetween {before after rest : Text} {y : Char}
    (h : lowerBetween before c after = y :: rest) (hx : IsPlain x) (hy : y.toLower = x) :
    c.toLower = x ∧ rest = [] := by
  obtain ⟨hlt, hk, hi⟩ := hx
  unfold lowerBetween at h
  split at h
  · obtain ⟨rfl, -⟩ := List.cons.inj h
    rw [← hy] at hlt
    split at hlt <;> exact absurd hlt (by decide)
  · split at h
    · obtain ⟨rfl, -⟩ := List.cons.inj h
      exact absurd (hy.symm.trans (by decide)) hi
    · obtain ⟨rfl, rfl⟩ := List.cons.inj h
      have hlow := (lowerChar_eq_iff_toLower hlt hk).mpr hy
      rw [lowerChar_lowerChar] at hlow
      exact ⟨(lowerChar_eq_iff_toLower hlt hk).mp hlow, rfl⟩

end Concordance.Text

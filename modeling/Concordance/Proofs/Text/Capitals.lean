import Concordance.Proofs.Text.Letters

/-!
# Texts in either ASCII case

The ASCII rule for small letters changes nothing that lower-casing looks at: a letter has a case in
both cases, is case-ignorable in neither, and has the same small letter. So the lower-case form of a
text does not depend on the ASCII case of its letters, whatever stands beside them.

* **`lower_map_toLower`**: the lower-case form of a text whose ASCII letters are made small first.
-/

namespace Concordance.Text

variable {c x : Char}

/-! ## One character -/

theorem toLower_lt (h : c.toNat < 128) : c.toLower.toNat < 128 := by
  have htable : ∀ n < 128, (Char.ofNat n).toLower.toNat < 128 := by decide
  have hc := htable c.toNat h
  rwa [Char.ofNat_toNat] at hc

theorem toLower_toLower (c : Char) : c.toLower.toLower = c.toLower :=
  apply_toLower Char.toLower (by decide) c

theorem isSpace_toLower (c : Char) : isSpace c.toLower = isSpace c :=
  apply_toLower isSpace (by decide) c

theorem isCased_toLower (c : Char) : isCased c.toLower = isCased c :=
  apply_toLower isCased (by decide) c

theorem isCaseIgnorable_toLower (c : Char) : isCaseIgnorable c.toLower = isCaseIgnorable c :=
  apply_toLower isCaseIgnorable (by decide) c

theorem lowerChar_toLower (c : Char) : lowerChar c.toLower = lowerChar c :=
  apply_toLower lowerChar (by decide) c

/-- A character beyond ASCII is what the ASCII rule makes of itself alone. -/
theorem toLower_eq_iff_of_le (hx : 128 ≤ x.toNat) : c.toLower = x ↔ c = x := by
  constructor
  · intro h
    refine (toLower_of_le (Nat.le_of_not_lt fun hc => ?_)).symm.trans h
    have hlt := toLower_lt hc
    rw [h] at hlt
    omega
  · rintro rfl
    exact toLower_of_le hx

/-! ## A text -/

theorem casedAhead_map_toLower (t : Text) : casedAhead (t.map Char.toLower) = casedAhead t := by
  have hignored : isCaseIgnorable ∘ Char.toLower = isCaseIgnorable := funext isCaseIgnorable_toLower
  unfold casedAhead
  rw [List.dropWhile_map, hignored]
  cases t.dropWhile isCaseIgnorable with
  | nil => rfl
  | cons c r => exact isCased_toLower c

theorem lowerBetween_map_toLower (before : Text) (c : Char) (after : Text) :
    lowerBetween (before.map Char.toLower) c.toLower (after.map Char.toLower) =
      lowerBetween before c after := by
  have hsigma : c.toLower = 'Σ' ↔ c = 'Σ' := toLower_eq_iff_of_le (by decide)
  have hdotted : c.toLower = 'İ' ↔ c = 'İ' := toLower_eq_iff_of_le (by decide)
  simp only [lowerBetween, hsigma, hdotted, casedAhead_map_toLower, lowerChar_toLower]

theorem lowerAfter_map_toLower (before t : Text) :
    lowerAfter (before.map Char.toLower) (t.map Char.toLower) = lowerAfter before t := by
  induction t generalizing before with
  | nil => rfl
  | cons c r ih =>
    rw [List.map_cons, lowerAfter, lowerAfter, lowerBetween_map_toLower, ← List.map_cons, ih]

/-- **The lower-case form of a text does not depend on the ASCII case of its letters.** -/
theorem lower_map_toLower (t : Text) : lower (t.map Char.toLower) = lower t :=
  lowerAfter_map_toLower [] t

end Concordance.Text

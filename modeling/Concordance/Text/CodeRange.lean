/-!
# Ranges of code points

A property of characters is given by the ascending list of the ranges of code points that have it.
`contains_iff` says what the early exit of the look-up is worth: on an ascending list it finds
exactly the members of some range.
-/

namespace Concordance

/-- Ranges of code points, both ends included, in ascending order. -/
abbrev CodeRanges := List (Nat × Nat)

namespace CodeRanges

/-- Whether a code point is in one of the ranges. The search ends at the first range above it. -/
def contains (n : Nat) : CodeRanges → Bool
  | [] => false
  | (lo, hi) :: r => if n < lo then false else if n ≤ hi then true else contains n r

/-- Every range is non-empty and ends before the next begins. -/
def Ascending (rs : CodeRanges) : Prop :=
  (∀ r ∈ rs, r.1 ≤ r.2) ∧ rs.Pairwise (·.2 < ·.1)

instance (rs : CodeRanges) : Decidable rs.Ascending := by
  unfold Ascending
  infer_instance

/-- Whether no range starts below a code point and every range starts after the one before it, in
one pass. -/
def ascendsFrom (n : Nat) : CodeRanges → Bool
  | [] => true
  | (lo, hi) :: r => Nat.ble n lo && Nat.ble lo hi && ascendsFrom (hi + 1) r

theorem le_of_ascendsFrom {n : Nat} {rs : CodeRanges} (h : ascendsFrom n rs = true) :
    ∀ r ∈ rs, n ≤ r.1 := by
  induction rs generalizing n with
  | nil => exact fun _ hr => absurd hr List.not_mem_nil
  | cons a rs ih =>
    simp only [ascendsFrom, Bool.and_eq_true, Nat.ble_eq] at h
    intro r hr
    rcases List.mem_cons.mp hr with rfl | hr
    · exact h.1.1
    · have := ih h.2 r hr
      omega

theorem ascending_of_ascendsFrom {n : Nat} {rs : CodeRanges} (h : ascendsFrom n rs = true) :
    rs.Ascending := by
  induction rs generalizing n with
  | nil => exact ⟨fun _ hr => absurd hr List.not_mem_nil, .nil⟩
  | cons a rs ih =>
    simp only [ascendsFrom, Bool.and_eq_true, Nat.ble_eq] at h
    obtain ⟨h1, h2⟩ := ih h.2
    exact ⟨List.forall_mem_cons.mpr ⟨h.1.2, h1⟩,
      List.pairwise_cons.mpr ⟨le_of_ascendsFrom h.2, h2⟩⟩

theorem contains_iff {rs : CodeRanges} (h : rs.Ascending) (n : Nat) :
    contains n rs = true ↔ ∃ r ∈ rs, r.1 ≤ n ∧ n ≤ r.2 := by
  induction rs with
  | nil => simp [contains]
  | cons a rs ih =>
    obtain ⟨h1, h2⟩ := h
    obtain ⟨ha, h2⟩ := List.pairwise_cons.mp h2
    have hle := h1 a List.mem_cons_self
    have ih := ih ⟨fun r hr => h1 r (List.mem_cons_of_mem _ hr), h2⟩
    unfold contains
    split
    · rename_i hlt
      refine iff_of_false Bool.false_ne_true ?_
      rintro ⟨r, hr, hlo, hhi⟩
      rcases List.mem_cons.mp hr with rfl | hr
      · omega
      · have := ha r hr
        omega
    · split
      · rename_i hlt hn
        exact iff_of_true rfl ⟨a, List.mem_cons_self, by omega, hn⟩
      · rename_i hlt hn
        rw [ih]
        constructor
        · rintro ⟨r, hr, hrn⟩
          exact ⟨r, List.mem_cons_of_mem _ hr, hrn⟩
        · rintro ⟨r, hr, hrn⟩
          rcases List.mem_cons.mp hr with rfl | hr
          · omega
          · exact ⟨r, hr, hrn⟩

end CodeRanges

end Concordance

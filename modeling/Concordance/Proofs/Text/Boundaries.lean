import Concordance.Proofs.Text.ByteOrder
import Concordance.Text.Slice

/-!
# Where the bytes of a text can be cut

A character is encoded by one byte that starts it and others that do not, so the boundaries among
the bytes of a text are the ends of its parts, and nothing else is. A cut at a boundary gives these
parts back.

* **`isBoundary_iff`**: where the boundaries of a text are.
* **`splitAt?_eq_some_iff`**, **`splitAt?_eq_none_iff`**: what a cut gives.
* `getD_findByte?`: the bytes before a character.
* `lineFeed_mem_bytes_iff`: which texts have the byte of a line feed.
-/

namespace Concordance.Text

variable {a b t : Text} {n : Nat}

/-! ## Bytes of characters -/

theorem bytes_nil : bytes [] = [] := rfl

theorem bytes_cons (c : Char) (t : Text) : bytes (c :: t) = String.utf8EncodeChar c ++ bytes t := by
  rw [bytes_eq, bytes_eq, List.flatMap_cons]

theorem bytes_append (a b : Text) : bytes (a ++ b) = bytes a ++ bytes b := by
  rw [bytes_eq, bytes_eq, bytes_eq, List.flatMap_append]

theorem length_bytes_cons (c : Char) (t : Text) :
    (bytes (c :: t)).length = c.utf8Size + (bytes t).length := by
  rw [bytes_cons, List.length_append, String.length_utf8EncodeChar]

/-- Bytes are read as the text that they encode. -/
theorem ofBytes?_bytes (t : Text) : ofBytes? ⟨(bytes t).toArray⟩ = some t :=
  ofBytes?_toBytes t

theorem startsChar_ofNat_iff {n : Nat} (h : n < 256) :
    startsChar (UInt8.ofNat n) = true ↔ n < 0x80 ∨ 0xC0 ≤ n := by
  have hn : (UInt8.ofNat n).toNat = n := UInt8.toNat_ofNat_of_lt h
  rw [startsChar, Bool.or_eq_true, decide_eq_true_eq, decide_eq_true_eq, UInt8.lt_iff_toNat_lt,
    UInt8.le_iff_toNat_le, hn]
  rfl

/-- **A character is encoded** by a byte that starts it, and bytes that start none. -/
theorem exists_utf8EncodeChar (c : Char) : ∃ x xs, String.utf8EncodeChar c = x :: xs ∧
    startsChar x = true ∧ ∀ y ∈ xs, startsChar y = false := by
  have hfirst (m : Nat) (hlow : 192 ≤ m) (hhigh : m < 256) : startsChar (UInt8.ofNat m) = true :=
    (startsChar_ofNat_iff hhigh).mpr (.inr hlow)
  have hother (m : Nat) : startsChar (UInt8.ofNat (m % 64 + 128)) = false := by
    have hlt := Nat.mod_lt m (y := 64) (by decide)
    rw [Bool.eq_false_iff, ne_eq, startsChar_ofNat_iff (by omega)]
    omega
  unfold String.utf8EncodeChar
  generalize c.val.toNat = m
  dsimp only
  split
  · exact ⟨_, _, rfl, (startsChar_ofNat_iff (by omega)).mpr (.inl (by omega)), nofun⟩
  split
  · refine ⟨_, _, rfl, hfirst _ (by omega) (by omega), ?_⟩
    simp only [List.forall_mem_cons, hother, List.not_mem_nil, false_implies, implies_true,
      true_and]
  split
  · refine ⟨_, _, rfl, hfirst _ (by omega) (by omega), ?_⟩
    simp only [List.forall_mem_cons, hother, List.not_mem_nil, false_implies, implies_true,
      true_and]
  · refine ⟨_, _, rfl, hfirst _ (by omega) (by omega), ?_⟩
    simp only [List.forall_mem_cons, hother, List.not_mem_nil, false_implies, implies_true,
      true_and]

theorem mem_utf8EncodeChar_iff {c : Char} : 10 ∈ String.utf8EncodeChar c ↔ c = '\n' := by
  have hbyte (m : Nat) (hm : m < 256) (h : 10 = UInt8.ofNat m) : m = 10 := by
    have hvalue : (UInt8.ofNat m).toNat = m := UInt8.toNat_ofNat_of_lt hm
    rw [← hvalue, ← h]
    rfl
  have hother (m : Nat) (hlow : 128 ≤ m) (hhigh : m < 256) : 10 ≠ UInt8.ofNat m := fun h => by
    have := hbyte m hhigh h
    omega
  constructor
  · intro h
    rw [← Char.toNat_inj]
    change c.val.toNat = 10
    unfold String.utf8EncodeChar at h
    generalize c.val.toNat = m at h ⊢
    dsimp only at h
    split at h
    · exact hbyte m (by omega) (List.mem_singleton.mp h)
    -- No byte of a longer encoding is below 128.
    split at h
    · simp only [List.mem_cons, List.not_mem_nil, or_false] at h
      rcases h with h | h <;> exact absurd h (hother _ (by omega) (by omega))
    split at h
    · simp only [List.mem_cons, List.not_mem_nil, or_false] at h
      rcases h with h | h | h <;> exact absurd h (hother _ (by omega) (by omega))
    · simp only [List.mem_cons, List.not_mem_nil, or_false] at h
      rcases h with h | h | h | h <;> exact absurd h (hother _ (by omega) (by omega))
  · rintro rfl
    decide

/-- A line feed is one byte that no other character has. -/
theorem lineFeed_mem_bytes_iff : 10 ∈ bytes t ↔ '\n' ∈ t := by
  rw [bytes_eq, List.mem_flatMap]
  simp only [mem_utf8EncodeChar_iff, exists_eq_right]

/-! ## Boundaries -/

/-- A boundary is where a part of the text ends. -/
theorem isBoundary_length (a b : Text) : isBoundary (bytes (a ++ b)) (bytes a).length = true := by
  have hget : (bytes (a ++ b))[(bytes a).length]? = (bytes b)[0]? := by
    rw [bytes_append, List.getElem?_append_right Nat.le.refl, Nat.sub_self]
  rw [isBoundary, hget]
  cases b with
  | nil =>
    rw [List.append_nil, bytes_nil, List.getElem?_nil]
    exact beq_self_eq_true _
  | cons c b =>
    obtain ⟨x, xs, hx, hstarts, -⟩ := exists_utf8EncodeChar c
    rw [bytes_cons, hx, List.cons_append, List.getElem?_cons_zero]
    exact Bool.or_eq_true_iff.mpr (.inr hstarts)

/-- A part of the text ends at every boundary. -/
theorem exists_of_isBoundary (h : isBoundary (bytes t) n = true) :
    ∃ a b, t = a ++ b ∧ (bytes a).length = n := by
  induction t generalizing n with
  | nil =>
    have hzero : n = 0 := by simpa [isBoundary, bytes_nil] using h
    exact ⟨[], [], rfl, hzero.symm⟩
  | cons c t ih =>
    obtain ⟨x, xs, hx, -, hother⟩ := exists_utf8EncodeChar c
    have hlength : c.utf8Size = xs.length + 1 := by
      rw [← String.length_utf8EncodeChar, hx, List.length_cons]
    by_cases hzero : n = 0
    · exact ⟨[], c :: t, rfl, hzero.symm⟩
    by_cases hlt : n < c.utf8Size
    · -- Inside of the first character there is none.
      obtain ⟨m, rfl⟩ := Nat.exists_eq_succ_of_ne_zero hzero
      have hm : m < xs.length := by omega
      have hget : (bytes (c :: t))[m + 1]? = some xs[m] := by
        rw [bytes_cons, hx, List.cons_append, List.getElem?_cons_succ,
          List.getElem?_append_left hm, List.getElem?_eq_getElem hm]
      rw [isBoundary, hget] at h
      simp [hother xs[m] (List.getElem_mem hm)] at h
    · have hget : (bytes (c :: t))[n]? = (bytes t)[n - c.utf8Size]? := by
        rw [bytes_cons, List.getElem?_append_right (by rw [String.length_utf8EncodeChar]; omega),
          String.length_utf8EncodeChar]
      have hrest : isBoundary (bytes t) (n - c.utf8Size) = true := by
        rw [isBoundary, hget, length_bytes_cons] at h
        rw [isBoundary]
        cases hbyte : (bytes t)[n - c.utf8Size]? with
        | none =>
          rw [hbyte] at h
          simp only [beq_iff_eq] at h ⊢
          omega
        | some y =>
          rw [hbyte] at h
          simp only [Bool.or_eq_true, beq_iff_eq] at h ⊢
          exact .inr (h.resolve_left hzero)
      obtain ⟨a, b, rfl, ha⟩ := ih hrest
      refine ⟨c :: a, b, rfl, ?_⟩
      rw [length_bytes_cons, ha]
      omega

/-- **Where the boundaries of a text are.** -/
theorem isBoundary_iff :
    isBoundary (bytes t) n = true ↔ ∃ a b, t = a ++ b ∧ (bytes a).length = n := by
  refine ⟨exists_of_isBoundary, ?_⟩
  rintro ⟨a, b, rfl, rfl⟩
  exact isBoundary_length a b

/-! ## Cuts -/

/-- **What a cut gives** are two parts of the text, the first with so many bytes. -/
theorem splitAt?_eq_some_iff :
    splitAt? t n = some (a, b) ↔ t = a ++ b ∧ (bytes a).length = n := by
  have hcut (a b : Text) : splitAt? (a ++ b) (bytes a).length = some (a, b) := by
    rw [splitAt?, if_pos (isBoundary_length a b), bytes_append, List.take_left, List.drop_left,
      ofBytes?_bytes, ofBytes?_bytes]
    rfl
  constructor
  · intro h
    by_cases hboundary : isBoundary (bytes t) n = true
    · obtain ⟨a', b', rfl, rfl⟩ := exists_of_isBoundary hboundary
      rw [hcut] at h
      cases h
      exact ⟨rfl, rfl⟩
    · rw [splitAt?, if_neg hboundary] at h
      cases h
  · rintro ⟨rfl, rfl⟩
    exact hcut a b

/-- Nothing but the place can be wrong with a cut. -/
theorem splitAt?_eq_none_iff : splitAt? t n = none ↔ isBoundary (bytes t) n = false := by
  rw [Option.eq_none_iff_forall_ne_some, Bool.eq_false_iff, ne_eq, isBoundary_iff]
  constructor
  · rintro h ⟨a, b, hab⟩
    exact h (a, b) (splitAt?_eq_some_iff.mpr hab)
  · rintro h ⟨a, b⟩ hab
    exact h ⟨a, b, splitAt?_eq_some_iff.mp hab⟩

/-- Inside of a character of two bytes. -/
example : splitAt? ['a', 'é'] 2 = none := by decide

theorem splitAt_append (a b : Text) : splitAt (a ++ b) (bytes a).length = .ok (a, b) := by
  rw [splitAt, splitAt?_eq_some_iff.mpr ⟨rfl, rfl⟩]

/-! ## Looking for a character -/

/-- The bytes before the first character that satisfies a test, or all of them. -/
theorem getD_findByte? (p : Char → Bool) (t : Text) :
    (findByte? p t).getD (bytes t).length = (bytes (t.takeWhile (!p ·))).length := by
  induction t with
  | nil => rfl
  | cons c t ih =>
    cases hc : p c with
    | true => rw [findByte?, if_pos hc, List.takeWhile_cons_of_neg (by simp [hc])]; rfl
    | false =>
      rw [findByte?, if_neg (by simp [hc]), List.takeWhile_cons_of_pos (by simp [hc]),
        length_bytes_cons, length_bytes_cons, ← ih]
      cases findByte? p t <;> rfl

end Concordance.Text

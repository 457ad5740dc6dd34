import Concordance.Text.Utf8

/-!
# Texts in the order of their bytes

Texts are ordered by their characters, and their encodings by their bytes. The two orders are one,
because of two characters the one with the smaller number has the smaller encoding, whatever bytes
follow: none of the two is the start of the other.

* `utf8EncodeChar_append_lt`: the order of two characters.
* **`bytes_lt_iff`**: the order of two texts.
-/

namespace Concordance.Text

theorem bytes_eq (t : Text) : bytes t = t.flatMap String.utf8EncodeChar := by
  rw [bytes, toBytes_eq, List.utf8Encode, List.data_toByteArray]

/-- A smaller character is encoded by smaller bytes, whatever follows. -/
theorem utf8EncodeChar_append_lt {c d : Char} (h : c < d) (s t : List UInt8) :
    String.utf8EncodeChar c ++ s < String.utf8EncodeChar d ++ t := by
  have hlt : c.val.toNat < d.val.toNat := h
  have hmax : d.val.toNat < 0x110000 := by
    rcases d.valid with hd | hd
    · exact Nat.lt_trans hd (by decide)
    · exact hd.2
  unfold String.utf8EncodeChar
  generalize c.val.toNat = m at *
  generalize d.val.toNat = n at *
  dsimp only
  -- A longer encoding has a greater first byte. Encodings of one length are the digits of the two
  -- numbers to the base 64 behind the same marks, so the first that differ decide.
  repeat' split
  all_goals
    simp only [List.cons_append, List.nil_append, List.cons_lt_cons_iff, UInt8.lt_iff_toNat_lt,
      ← UInt8.toNat_inj, UInt8.toNat_ofNat']
    simp (disch := omega) only [Nat.mod_eq_of_lt]
    omega

theorem bytes_lt_bytes {a b : Text} (h : a < b) : bytes a < bytes b := by
  rw [bytes_eq, bytes_eq]
  induction h with
  | @nil c b =>
    obtain ⟨x, xs, hx⟩ := List.exists_cons_of_ne_nil (String.utf8EncodeChar_ne_nil (c := c))
    rw [List.flatMap_nil, List.flatMap_cons, hx]
    exact List.nil_lt_cons x _
  | rel h =>
    rw [List.flatMap_cons, List.flatMap_cons]
    exact utf8EncodeChar_append_lt h _ _
  | cons _ ih =>
    rw [List.flatMap_cons, List.flatMap_cons]
    exact List.append_left_lt ih

/-- **Texts are in the order of their bytes.** -/
theorem bytes_lt_iff {a b : Text} : bytes a < bytes b ↔ a < b := by
  refine ⟨fun h => ?_, bytes_lt_bytes⟩
  refine Std.not_le.mp fun hle => ?_
  by_cases heq : b = a
  · rw [heq] at h
    exact List.lt_irrefl _ h
  · exact List.lt_asymm h (bytes_lt_bytes (Std.lt_of_le_of_ne hle heq))

end Concordance.Text

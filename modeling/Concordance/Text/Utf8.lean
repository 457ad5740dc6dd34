import Concordance.Text.Basic

/-!
# Texts as bytes

The UTF-8 encoding of a text, and its inverse on the byte sequences that encode one.

Model of how a text is kept in a file and read back.

* `ofBytes?_eq_some_iff`: decoding accepts exactly what encoding produces.
* `takeBytes_isPrefix`, `takeBytes_eq_self`: cutting a text by bytes.
-/

namespace Concordance.Text

/-- The UTF-8 encoding of a text. -/
def toBytes (t : Text) : ByteArray := (String.ofList t).toByteArray

/-- The bytes of a text. -/
def bytes (t : Text) : List UInt8 := (toBytes t).data.toList

/-- The text that bytes encode, if they encode one. -/
def ofBytes? (b : ByteArray) : Option Text := b.utf8Decode?.map Array.toList

theorem toBytes_eq (t : Text) : toBytes t = List.utf8Encode t := String.toByteArray_ofList

@[simp] theorem ofBytes?_toBytes (t : Text) : ofBytes? (toBytes t) = some t := by
  simp [ofBytes?, toBytes_eq]

/-- Decoding accepts exactly what encoding produces. -/
theorem ofBytes?_eq_some_iff {b : ByteArray} {t : Text} : ofBytes? b = some t ↔ b = toBytes t := by
  constructor
  · intro h
    obtain ⟨a, ha, rfl⟩ := Option.map_eq_some_iff.mp h
    have hs : b.utf8Decode?.isSome = true := by simp [ha]
    have := ByteArray.utf8Encode_get_utf8Decode? (h := hs)
    simp only [ha, Option.get_some] at this
    rw [toBytes_eq, this]
  · rintro rfl
    exact ofBytes?_toBytes t

theorem ofBytes?_eq_none_iff {b : ByteArray} : ofBytes? b = none ↔ ∀ t, b ≠ toBytes t := by
  rw [Option.eq_none_iff_forall_ne_some]
  exact forall_congr' fun t => not_congr ofBytes?_eq_some_iff

theorem toBytes_inj {a b : Text} : toBytes a = toBytes b ↔ a = b := by
  refine ⟨fun h => ?_, congrArg toBytes⟩
  rw [← Option.some.injEq, ← ofBytes?_toBytes a, h, ofBytes?_toBytes]

theorem bytes_inj {a b : Text} : bytes a = bytes b ↔ a = b :=
  ⟨fun h => toBytes_inj.mp (ByteArray.ext (Array.toList_inj.mp h)), congrArg bytes⟩

/-- The longest start of a text that takes at most so many bytes. -/
def takeBytes : Nat → Text → Text
  | _, [] => []
  | n, c :: r => if c.utf8Size ≤ n then c :: takeBytes (n - c.utf8Size) r else []

theorem takeBytes_isPrefix (n : Nat) (t : Text) : takeBytes n t <+: t := by
  induction t generalizing n with
  | nil => exact List.prefix_rfl
  | cons c r ih =>
    unfold takeBytes
    split
    · exact List.cons_prefix_cons.mpr ⟨rfl, ih _⟩
    · exact List.nil_prefix

/-- A text of characters of one byte is cut by bytes as by characters. -/
theorem takeBytes_eq_self {t : Text} (h : ∀ c ∈ t, c.utf8Size = 1) : takeBytes t.length t = t := by
  induction t with
  | nil => rfl
  | cons c r ih =>
    have hc := h c List.mem_cons_self
    have := ih fun x hx => h x (List.mem_cons_of_mem _ hx)
    simp [takeBytes, hc, this]

end Concordance.Text

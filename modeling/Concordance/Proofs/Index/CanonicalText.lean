import Concordance.Proofs.Index.RoundTrip
import Concordance.Proofs.Text.ByteOrder
import Concordance.Proofs.Text.Numbers

/-!
# The one written form of an index

Reading accepts many texts for an index, and writing gives one of them. `CanonicalText` says which
texts these are without speaking of indexes: rows of a word and its numbers, the words in the order
of their bytes, the numbers ascending and spelled without a needless character. A canonical text is
the text of an index that is legible, and of no other, because its rows are the entries of the index
one by one. What is read and written again is therefore canonical, and a text that comes back is one
that was canonical from the start.

Texts are read by `parse_index` and written by `write_index`.

* `rowOf_entryOf`, `canonicalRow_rowOf`: canonical rows are the entries of an index as text.
* **`canonicalText_iff`**: the canonical texts are those of legible indexes.
* **`ofText_toText_eq_iff`**: they are what comes back unchanged.
-/

namespace Concordance

/-! ## Canonical texts -/

/-- A row of text: a word, then numbers with a space before each, then a line feed. -/
def rowText (row : Text × List Text) : Text := row.1 ++ (row.2.flatMap (' ' :: ·) ++ ['\n'])

/-- The row of a word with ascending numbers, each below 2^64 and in its written form. -/
structure CanonicalRow (row : Text × List Text) : Prop where
  word : IsWord row.1
  numerals : ∀ f ∈ row.2, ∃ n < UInt64.size, Text.IsNumeral f n
  ascending : row.2.Pairwise fun f g => Nat.ofDigitChars 10 f 0 < Nat.ofDigitChars 10 g 0

/-- A text of canonical rows in the order of the bytes of their words. -/
def CanonicalText (t : Text) : Prop :=
  ∃ rows : List (Text × List Text), t = rows.flatMap rowText ∧ (∀ row ∈ rows, CanonicalRow row) ∧
    rows.Pairwise fun r s => Text.bytes r.1 < Text.bytes s.1

/-! ## Rows and entries -/

/-- The document that a canonical numeral spells. -/
def documentOf (f : Text) : DocId := UInt64.ofNat (Nat.ofDigitChars 10 f 0)

/-- The entry that a canonical row spells. -/
def entryOf (row : Text × List Text) : Text × Postings := (row.1, .ofList (row.2.map documentOf))

/-- The row of an entry. -/
def rowOf (e : Text × Postings) : Text × List Text := (e.1, e.2.toList.map DocId.toText)

theorem rowText_rowOf (e : Text × Postings) : rowText (rowOf e) = Index.lineOf e.1 e.2 := by
  simp only [rowText, rowOf, Index.lineOf, List.flatMap_map]

/-- An ascending list lists the set of its elements. -/
theorem AscSet.toList_ofList {l : List DocId} (h : l.Pairwise (· < ·)) :
    (AscSet.ofList l).toList = l :=
  congrArg AscSet.toList (AscSet.ofList_toList ⟨l, h⟩)

namespace CanonicalRow

variable {row : Text × List Text}

theorem toNat_documentOf (h : CanonicalRow row) {f : Text} (hf : f ∈ row.2) :
    (documentOf f).toNat = Nat.ofDigitChars 10 f 0 := by
  obtain ⟨n, hn, hnumeral⟩ := h.numerals f hf
  rw [documentOf, hnumeral.2.2.2]
  exact UInt64.toNat_ofNat_of_lt' hn

/-- A canonical numeral is the written form of the document that it spells. -/
theorem toText_documentOf (h : CanonicalRow row) {f : Text} (hf : f ∈ row.2) :
    (documentOf f).toText = f := by
  obtain ⟨n, -, hnumeral⟩ := h.numerals f hf
  rw [DocId.toText, h.toNat_documentOf hf, hnumeral.2.2.2]
  exact (Text.isNumeral_iff.mp hnumeral).symm

theorem rowOf_entryOf (h : CanonicalRow row) : rowOf (entryOf row) = row := by
  have hascending : (row.2.map documentOf).Pairwise (· < ·) := by
    refine List.pairwise_map.mpr (h.ascending.imp_of_mem fun hf hg hlt => ?_)
    rw [UInt64.lt_iff_toNat_lt, h.toNat_documentOf hf, h.toNat_documentOf hg]
    exact hlt
  have hnumbers : (row.2.map documentOf).map DocId.toText = row.2 := by
    rw [List.map_map]
    calc row.2.map (DocId.toText ∘ documentOf)
      _ = row.2.map id := List.map_congr_left fun f hf => h.toText_documentOf hf
      _ = row.2 := List.map_id row.2
  rw [rowOf, entryOf, AscSet.toList_ofList hascending, hnumbers]

end CanonicalRow

theorem canonicalRow_rowOf {e : Text × Postings} (h : IsWord e.1) : CanonicalRow (rowOf e) where
  word := h
  numerals f hf := by
    obtain ⟨d, -, rfl⟩ := List.mem_map.mp hf
    exact ⟨d.toNat, d.toNat_lt_size, Text.isNumeral_iff.mpr rfl⟩
  ascending := by
    refine List.pairwise_map.mpr (e.2.ascending.imp fun hlt => ?_)
    rw [DocId.toText, DocId.toText, Text.toDecimal, Text.toDecimal, Nat.ofDigitChars_ten_toDigits,
      Nat.ofDigitChars_ten_toDigits]
    exact UInt64.lt_iff_toNat_lt.mp hlt

namespace Index

/-- The text of an index, row by row. -/
theorem toText_eq_rows (x : Index) : x.toText = (x.toList.map rowOf).flatMap rowText := by
  simp only [toText, List.flatMap_map, rowText_rowOf]

/-- Canonical rows are the rows of an index. -/
theorem exists_of_rows {rows : List (Text × List Text)} (hrows : ∀ row ∈ rows, CanonicalRow row)
    (hascending : rows.Pairwise fun r s => Text.bytes r.1 < Text.bytes s.1) :
    ∃ x : Index, x.toList = rows.map entryOf ∧ x.toList.map rowOf = rows := by
  have hwords : (rows.map entryOf).Pairwise (·.1 < ·.1) :=
    List.pairwise_map.mpr (hascending.imp Text.bytes_lt_iff.mp)
  refine ⟨⟨⟨rows.map entryOf, hwords⟩⟩, rfl, ?_⟩
  change (rows.map entryOf).map rowOf = rows
  rw [List.map_map]
  calc rows.map (rowOf ∘ entryOf)
    _ = rows.map id := List.map_congr_left fun row hrow => (hrows row hrow).rowOf_entryOf
    _ = rows := List.map_id rows

/-- **The canonical texts are the texts of legible indexes.** -/
theorem canonicalText_iff {t : Text} : CanonicalText t ↔ ∃ x : Index, x.Legible ∧ x.toText = t := by
  constructor
  · rintro ⟨rows, rfl, hrows, hascending⟩
    obtain ⟨x, hentries, hback⟩ := exists_of_rows hrows hascending
    refine ⟨x, legible_iff_forall_mem.mpr fun e he => ?_, by rw [toText_eq_rows, hback]⟩
    rw [hentries] at he
    obtain ⟨row, hrow, rfl⟩ := List.mem_map.mp he
    exact (hrows row hrow).word
  · rintro ⟨x, hlegible, rfl⟩
    refine ⟨x.toList.map rowOf, x.toText_eq_rows, fun row hrow => ?_, ?_⟩
    · obtain ⟨e, he, rfl⟩ := List.mem_map.mp hrow
      exact canonicalRow_rowOf (legible_iff_forall_mem.mp hlegible e he)
    · exact List.pairwise_map.mpr (x.words.ascending.imp Text.bytes_lt_iff.mpr)

/-- **The canonical texts are those that come back** when they are read and written, and nothing
else is ever written after reading. -/
theorem ofText_toText_eq_iff :
    (∀ t : Text, (∃ x, ofText t = .ok x ∧ x.toText = t) ↔ CanonicalText t) ∧
      ∀ (t : Text) (x : Index), ofText t = .ok x → CanonicalText x.toText := by
  refine ⟨fun t => ?_, fun t x h => canonicalText_iff.mpr ⟨x, legible_of_ofText h, rfl⟩⟩
  rw [canonicalText_iff]
  constructor
  · rintro ⟨x, hread, hback⟩
    exact ⟨x, legible_of_ofText hread, hback⟩
  · rintro ⟨x, hlegible, rfl⟩
    exact ⟨x, ofText_toText hlegible, rfl⟩

/-- A text with a capital letter, a blank line, a plus sign, needless zeros and a repetition. -/
theorem ofText_toText_eq_iff_untidy :
    let x := (∅ : Index).insert "b".toList 7
    ofText "B 1\r\n\n b +7 007".toList = .ok x ∧ CanonicalText x.toText := by
  intro x
  have hread : ofText "B 1\r\n\n b +7 007".toList = .ok x := rfl
  exact ⟨hread, ofText_toText_eq_iff.2 _ x hread⟩

end Index

end Concordance

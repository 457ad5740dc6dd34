import Concordance.Proofs.Index.RoundTrip
import Concordance.Proofs.Text.Trimming

/-!
# The words of lines

A word stands in front of its line, with white space before it at most (`FirstField`), and is
lower-cased when the line is read (`FirstWords`). It is lower-cased again when it is added to an
index, which changes nothing, so each of these words is added as what it is.

The lines are read by `parse_lemma_lines`.

* `head?_fields_eq_some_iff`: the first of the fields of a line.
* **`firstWords_iff`**: the words that are read from lines.
* `FirstWords.mem_iff`: where they come from.
* `spells_iff_of_isWord`: what they are added as.
-/

namespace Concordance

namespace Text

variable {line gap w : Text}

/-! ## The first field of a line -/

/-- A field is the first of a line: what stands before it is blank, and white space or nothing
follows it. -/
def FirstField (line w : Text) : Prop :=
  ∃ gap rest, line = gap ++ (w ++ rest) ∧ isBlank gap = true ∧ Solid w ∧
    ∀ c, rest.head? = some c → isSpace c = true

theorem fields_append_of_isBlank (h : isBlank gap = true) (t : Text) :
    fields (gap ++ t) = fields t := by
  induction gap with
  | nil => rfl
  | cons c gap ih =>
    obtain ⟨hc, hgap⟩ := List.forall_mem_cons.mp (isBlank_iff.mp h)
    rw [← ih (isBlank_iff.mpr hgap), List.cons_append, fields, pieces, if_pos hc]
    rfl

theorem fields_of_isBlank (h : isBlank line = true) : fields line = [] := by
  rw [← List.append_nil line, fields_append_of_isBlank h]
  rfl

theorem FirstField.head?_fields (h : FirstField line w) : (fields line).head? = some w := by
  obtain ⟨gap, rest, rfl, hgap, hw, hrest⟩ := h
  rw [fields_append_of_isBlank hgap]
  cases rest with
  | nil => rw [List.append_nil, fields_of_solid hw, List.head?_cons]
  | cons x rest => rw [fields_append_cons hw (hrest x rfl), List.head?_cons]

theorem exists_firstField (h : isBlank line = false) : ∃ w, FirstField line w := by
  have hstart : line.takeWhile isSpace ++ trimStart line = line := List.takeWhile_append_dropWhile
  generalize hgap : line.takeWhile isSpace = gap at hstart
  have hblank : isBlank gap = true := hgap ▸ List.all_takeWhile
  have hsplit : (trimStart line).takeWhile (!isSpace ·) ++ (trimStart line).dropWhile (!isSpace ·) =
      trimStart line := List.takeWhile_append_dropWhile
  refine ⟨(trimStart line).takeWhile (!isSpace ·), gap, (trimStart line).dropWhile (!isSpace ·), ?_,
    hblank, ⟨?_, ?_⟩, ?_⟩
  · rw [hsplit, hstart]
  · cases hrest : trimStart line with
    | nil =>
      rw [hrest, List.append_nil] at hstart
      rw [← hstart, hblank] at h
      cases h
    | cons c rest =>
      have hc : isSpace c = false := isSpace_of_head?_dropWhile (by rw [← trimStart, hrest]; rfl)
      rw [List.takeWhile_cons_of_pos (by rw [hc]; rfl)]
      exact List.cons_ne_nil _ _
  · intro c hc
    have hall : ((trimStart line).takeWhile (!isSpace ·)).all (!isSpace ·) = true :=
      List.all_takeWhile
    simpa using List.all_eq_true.mp hall c hc
  · intro c hc
    have hnot := List.head?_dropWhile_not (!isSpace ·) (trimStart line)
    rw [hc] at hnot
    simpa using hnot

/-- The first of the fields of a line. -/
theorem head?_fields_eq_some_iff : (fields line).head? = some w ↔ FirstField line w := by
  refine ⟨fun h => ?_, FirstField.head?_fields⟩
  cases hblank : isBlank line with
  | true =>
    rw [fields_of_isBlank hblank] at h
    cases h
  | false =>
    obtain ⟨v, hv⟩ := exists_firstField hblank
    rw [hv.head?_fields] at h
    cases h
    exact hv

theorem isBlank_of_head?_fields (h : (fields line).head? = none) : isBlank line = true := by
  cases hblank : isBlank line with
  | true => rfl
  | false =>
    obtain ⟨v, hv⟩ := exists_firstField hblank
    rw [hv.head?_fields] at h
    cases h

end Text

open Text (FirstField isBlank lower)

/-! ## The words of lines -/

/-- The words of some lines: of each that is not blank the first field, lower-cased. -/
inductive FirstWords : List Text → List Text → Prop where
  | nil : FirstWords [] []
  | blank {line : Text} {ls ws : List Text} : isBlank line = true → FirstWords ls ws →
    FirstWords (line :: ls) ws
  | field {line w : Text} {ls ws : List Text} : FirstField line w → FirstWords ls ws →
    FirstWords (line :: ls) (lower w :: ws)

/-- A line has a word in front: its first field, lower-cased. -/
def FrontWord (line w : Text) : Prop := ∃ v, FirstField line v ∧ lower v = w

variable {t w : Text} {ls ws : List Text}

theorem firstWords_filterMap (ls : List Text) :
    FirstWords ls (ls.filterMap fun line => (Text.fields line).head?.map lower) := by
  induction ls with
  | nil => exact .nil
  | cons line ls ih =>
    rw [List.filterMap_cons]
    cases hfield : (Text.fields line).head? with
    | none => exact .blank (Text.isBlank_of_head?_fields hfield) ih
    | some v => exact .field (Text.head?_fields_eq_some_iff.mp hfield) ih

theorem FirstWords.filterMap_eq (h : FirstWords ls ws) :
    (ls.filterMap fun line => (Text.fields line).head?.map lower) = ws := by
  induction h with
  | nil => rfl
  | blank hblank _ ih =>
    rw [List.filterMap_cons, Text.fields_of_isBlank hblank]
    exact ih
  | field hfield _ ih =>
    rw [List.filterMap_cons, hfield.head?_fields, ← ih]
    rfl

/-- **The words of the lines of a text.** -/
theorem firstWords_iff : FirstWords (Text.lines t) ws ↔ wordsOfLines t = ws :=
  ⟨FirstWords.filterMap_eq, fun h => h ▸ firstWords_filterMap _⟩

theorem FirstWords.mem_iff (h : FirstWords ls ws) : w ∈ ws ↔ ∃ line ∈ ls, FrontWord line w := by
  rw [← h.filterMap_eq]
  simp only [List.mem_filterMap, Option.map_eq_some_iff, Text.head?_fields_eq_some_iff, FrontWord]

theorem FrontWord.isWord {line : Text} (h : FrontWord line w) : IsWord w := by
  obtain ⟨v, ⟨_, _, _, _, hv, _⟩, rfl⟩ := h
  exact isWord_lower hv

/-- A word spells itself and no other. -/
theorem spells_iff_of_isWord (h : IsWord w) {v : Text} : Text.Spells w v ↔ w = v := by
  have hsolid : Text.Solid w := ⟨h.1, h.2.1⟩
  rw [Text.Spells, Text.trim_of_solid hsolid, h.2.2]
  exact and_iff_right hsolid

end Concordance

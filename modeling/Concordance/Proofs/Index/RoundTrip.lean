import Concordance.Index.Lines
import Concordance.Proofs.Builder.Additions
import Concordance.Proofs.Text.Lower

/-!
# Writing and reading an index

Writing an index and reading the text gives the index again exactly if its words are legible: none
is empty, has white space or changes when it is lower-cased. The two directions are apart. That a
legible index comes back is an induction along its entries, each of which is one line of solid
fields. That only a legible index can come back holds because every index that is read at all is
legible, whatever the text, and every index that a builder makes is, whatever it was given.

Writing is `write_index`, and reading is `parse_index`.

* **`ofText_toText`**: a legible index comes back.
* **`legible_of_ofText`**, **`legible_addAll`**: reading and building make legible indexes.
* **`ofText_toText_iff_legible`**: the three together.
-/

namespace Concordance

open Text (Solid)

/-- A text that can be written as the word of a line and is read as the same word. -/
def IsWord (w : Text) : Prop := w ≠ [] ∧ (∀ c ∈ w, Text.isSpace c = false) ∧ Text.lower w = w

instance (w : Text) : Decidable (IsWord w) :=
  decidable_of_iff (Solid w ∧ Text.lower w = w) (by rw [Solid, IsWord, and_assoc])

/-- The lower-case form of a solid text is a word. -/
theorem isWord_lower {t : Text} (h : Solid t) : IsWord (Text.lower t) := by
  refine ⟨fun e => h.1 (Text.lower_eq_nil_iff.mp e), fun c hc => ?_, Text.lower_lower t⟩
  rw [Bool.eq_false_iff]
  intro hs
  obtain ⟨d, hd, hds⟩ := Text.isSpace_of_mem_lower hc hs
  exact Bool.false_ne_true ((h.2 d hd).symm.trans hds)

/-! ## Entries put in one after another -/

namespace AscMap

variable {κ β : Type} [DecidableEq κ]

theorem find_append (k : κ) (l m : List (κ × β)) : find k (l ++ m) = (find k l).or (find k m) := by
  induction l with
  | nil => rfl
  | cons e l ih =>
    rw [List.cons_append, find, find]
    split
    · rfl
    · exact ih

/-- Where no key occurs twice, the last entry of a key is the first. -/
theorem find_reverse [LE κ] [LT κ] [Std.IsLinearOrder κ] [Std.LawfulOrderLT κ] {l : List (κ × β)}
    (h : l.Pairwise (·.1 < ·.1)) (k : κ) : find k l.reverse = find k l := by
  induction l with
  | nil => rfl
  | cons e l ih =>
    obtain ⟨he, hl⟩ := List.pairwise_cons.mp h
    rw [List.reverse_cons, find_append, ih hl]
    simp only [find]
    split
    · rename_i hk
      subst hk
      rw [find_eq_none_of_lt he]
      rfl
    · exact Option.or_none

end AscMap

namespace Index

/-- Of several entries of a word the last one counts; a word without one keeps its documents. -/
theorem get?_foldl_replace (l : List (Text × Postings)) (x : Index) (w : Text) :
    (l.foldl (fun x e => x.replace e.1 e.2) x).get? w = (AscMap.find w l.reverse).or (x.get? w) := by
  induction l generalizing x with
  | nil => rfl
  | cons e l ih =>
    rw [List.foldl_cons, ih, get?_replace, List.reverse_cons, AscMap.find_append]
    simp only [AscMap.find]
    split <;> simp

/-- The entries of an index make up the index. -/
theorem ofList_toList (x : Index) : ofList x.toList = x := by
  refine ext_get? fun w => ?_
  rw [ofList, get?_foldl_replace, toList, AscMap.find_reverse x.words.ascending, get?_empty,
    Option.or_none]
  rfl

/-- Every word that an index holds can be written and read as itself. -/
def Legible (x : Index) : Prop := ∀ w, x.contains w = true → IsWord w

theorem legible_empty : Legible ∅ := fun _ h => absurd h Bool.false_ne_true

theorem contains_replace {x : Index} {w v : Text} {ds : Postings} :
    (x.replace w ds).contains v = true ↔ v = w ∨ x.contains v = true := by
  rw [contains_iff, contains_iff, get?_replace]
  by_cases hv : v = w <;> simp [hv]

theorem Legible.replace {x : Index} (h : x.Legible) {w : Text} (hw : IsWord w) (ds : Postings) :
    (x.replace w ds).Legible := by
  intro v hv
  rcases contains_replace.mp hv with rfl | hv
  · exact hw
  · exact h v hv

theorem legible_iff_forall_mem {x : Index} : x.Legible ↔ ∀ e ∈ x.toList, IsWord e.1 := by
  constructor
  · intro h e he
    have hget : x.get? e.1 = some e.2 := AscMap.mem_toList_iff.mp he
    exact h e.1 (contains_iff.mpr ⟨e.2, hget⟩)
  · intro h w hw
    obtain ⟨ds, hget⟩ := contains_iff.mp hw
    exact h (w, ds) (AscMap.mem_toList_iff.mpr hget)

instance (x : Index) : Decidable x.Legible := decidable_of_iff _ legible_iff_forall_mem.symm

/-! ## What is written is read -/

theorem documentsOf_map_toText (ds : List DocId) :
    documentsOf (ds.map DocId.toText) = .ok ds := by
  induction ds with
  | nil => rfl
  | cons d ds ih =>
    rw [List.map_cons, documentsOf, DocId.ofText?_toText]
    simp only [ih]
    rfl

theorem solid_documentText (d : DocId) : Solid d.toText := Text.solid_toDecimal d.toNat

/-- The line of a word without its line feed. -/
def bareLine (w : Text) (ds : List DocId) : Text := w ++ ds.flatMap fun d => ' ' :: d.toText

theorem lineOf_append (w : Text) (ds : Postings) (rest : Text) :
    lineOf w ds ++ rest = bareLine w ds.toList ++ '\n' :: rest := by
  simp [lineOf, bareLine]

theorem fields_bareLine {w : Text} (hw : Solid w) (ds : List DocId) :
    Text.fields (bareLine w ds) = w :: ds.map DocId.toText := by
  induction ds generalizing w with
  | nil =>
    rw [bareLine, List.flatMap_nil, List.append_nil, Text.fields_of_solid hw]
    rfl
  | cons d ds ih =>
    have hcut : bareLine w (d :: ds) = w ++ ' ' :: bareLine d.toText ds := by
      simp [bareLine]
    rw [hcut, Text.fields_append_cons hw (by decide), ih (solid_documentText d)]
    rfl

/-- A bare line has no other white space than spaces. -/
theorem not_mem_bareLine {w : Text} (hw : Solid w) (ds : List DocId) {c : Char}
    (hc : Text.isSpace c = true) (hne : c ≠ ' ') : c ∉ bareLine w ds := by
  have hsolid : ∀ {t : Text}, Solid t → c ∉ t := fun ht hm =>
    Bool.false_ne_true ((ht.2 c hm).symm.trans hc)
  intro hm
  rcases List.mem_append.mp hm with hm | hm
  · exact hsolid hw hm
  · obtain ⟨d, -, hm⟩ := List.mem_flatMap.mp hm
    rcases List.mem_cons.mp hm with rfl | hm
    · exact hne rfl
    · exact hsolid (solid_documentText d) hm

theorem readLine_bareLine {w : Text} (hw : Solid w) (ds : Postings) :
    readLine (bareLine w ds.toList) = .ok (some (w, ds)) := by
  simp only [readLine, fields_bareLine hw, documentsOf_map_toText, AscSet.ofList_toList]

theorem lines_lineOf_append {w : Text} (hw : Solid w) (ds : Postings) (rest : Text) :
    Text.lines (lineOf w ds ++ rest) = bareLine w ds.toList :: Text.lines rest := by
  rw [lineOf_append, Text.lines_append_cons (not_mem_bareLine hw _ (by decide) (by decide)),
    Text.dropReturn_of_not_mem (not_mem_bareLine hw _ (by decide) (by decide))]

/-- The lines of entries put in the entries. -/
theorem readLines_lineOf {l : List (Text × Postings)} (h : ∀ e ∈ l, IsWord e.1) (n : Nat)
    (x : Index) :
    readLines n x (Text.lines (l.flatMap fun e => lineOf e.1 e.2)) =
      .ok (l.foldl (fun x e => x.replace e.1 e.2) x) := by
  induction l generalizing n x with
  | nil => rfl
  | cons e l ih =>
    obtain ⟨hne, hsp, hlow⟩ := h e List.mem_cons_self
    rw [List.flatMap_cons, lines_lineOf_append ⟨hne, hsp⟩, readLines, readLine_bareLine ⟨hne, hsp⟩]
    simp only [hlow]
    exact ih (fun f hf => h f (List.mem_cons_of_mem _ hf)) _ _

/-- **A legible index comes back.** -/
theorem ofText_toText {x : Index} (h : x.Legible) : ofText x.toText = .ok x := by
  rw [ofText, toText, readLines_lineOf (legible_iff_forall_mem.mp h)]
  exact congrArg Except.ok (ofList_toList x)

/-! ## What is read is legible -/

theorem solid_of_readLine {line w : Text} {ds : Postings}
    (h : readLine line = .ok (some (w, ds))) : Solid w := by
  unfold readLine at h
  split at h
  · exact absurd h (by simp)
  · rename_i v fs hf
    split at h
    · exact absurd h (by simp)
    · cases h
      exact Text.solid_of_mem_fields (hf ▸ List.mem_cons_self)

theorem legible_of_readLines {n : Nat} {ls : List Text} {x y : Index} (hx : x.Legible)
    (h : readLines n x ls = .ok y) : y.Legible := by
  induction ls generalizing n x with
  | nil =>
    cases h
    exact hx
  | cons line ls ih =>
    unfold readLines at h
    split at h
    · exact absurd h (by simp)
    · exact ih hx h
    · rename_i w ds hl
      exact ih (hx.replace (isWord_lower (solid_of_readLine hl)) ds) h

/-- **Every index that is read is legible.** -/
theorem legible_of_ofText {t : Text} {x : Index} (h : ofText t = .ok x) : x.Legible :=
  legible_of_readLines legible_empty h

/-- **Every index that is built is legible.** -/
theorem legible_addAll (l : List (DocId × List Text)) : (Builder.addAll ∅ l).index.Legible := by
  intro w hw
  obtain ⟨d, e, -, -, t, -, hs, rfl⟩ := Builder.contains_addAll.mp hw
  exact isWord_lower hs

/-- **The round trip, exactly.** An index comes back from its text iff it is legible, and every
index that is read from a text or built from additions is. -/
theorem ofText_toText_iff_legible :
    (∀ x : Index, ofText x.toText = .ok x ↔ x.Legible) ∧
      (∀ (t : Text) (x : Index), ofText t = .ok x → x.Legible) ∧
      ∀ l : List (DocId × List Text), (Builder.addAll ∅ l).index.Legible := by
  refine ⟨fun x => ⟨fun h => legible_of_ofText h, fun h => ofText_toText h⟩,
    fun t x h => legible_of_ofText h, legible_addAll⟩

end Index

end Concordance

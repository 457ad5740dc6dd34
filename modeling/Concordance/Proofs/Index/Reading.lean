import Concordance.Index.Lines
import Concordance.Proofs.Text.Cutting
import Concordance.Proofs.Text.Numbers

/-!
# What the text of an index means

The meaning of an index text, said of its lines one by one. A line is sound if every field after its
word spells the number of a document. A text with a line that is not sound means nothing but the
first fault of the first such line, whatever the other lines are. Any other text means an index: the
documents of a word are those on the last line that names it, where a line names the lower-case form
of its first field.

Reading goes along the lines with the number of the next one and the index so far, so the lemmas on
`readLines` speak of any number and any index at the start.

The text is read by `parse_index`.

* `readLines_faulty`, `readLines_sound`: what reading further lines gives.
* **`ofText_eq_iff_means`**: reading a text finds what the text means.
-/

namespace Concordance.Index

/-! ## What lines mean -/

/-- Every field of a line after its word is the number of a document. -/
def Sound (line : Text) : Prop := ∀ f ∈ (Text.fields line).tail, DocId.IsSpelled f

/-- The first field of a line after its word that is no document number. -/
def Faulty (line word field : Text) : Prop :=
  ∃ good rest, Text.fields line = word :: (good ++ field :: rest) ∧
    (∀ f ∈ good, DocId.IsSpelled f) ∧ ¬ DocId.IsSpelled field

/-- The documents whose numbers some fields spell. -/
def Lists (fs : List Text) (ds : Postings) : Prop :=
  ∀ d, d ∈ ds ↔ ∃ f ∈ fs, Text.SpellsNumber f d.toNat

/-- The first field of a line is a word when it is lower-cased. -/
def Names (line w : Text) : Prop := ∃ word fs, Text.fields line = word :: fs ∧ Text.lower word = w

/-- The fields after the word on the last of some lines that names it. -/
inductive LastFields : List Text → Text → List Text → Prop where
  | here {line word w : Text} {ls fs : List Text} : Text.fields line = word :: fs →
    Text.lower word = w → (∀ l ∈ ls, ¬ Names l w) → LastFields (line :: ls) w fs
  | later {line w : Text} {ls fs : List Text} : LastFields ls w fs → LastFields (line :: ls) w fs

/-- An index holds the words that some lines name, each with the documents on its last line. -/
structure Gathers (ls : List Text) (x : Index) : Prop where
  held : ∀ w fs, LastFields ls w fs → ∃ ds, x.get? w = some ds ∧ Lists fs ds
  absent : ∀ w, (∀ l ∈ ls, ¬ Names l w) → x.get? w = none

/-- What some lines mean: the first fault of the first line that is not sound, or an index. -/
inductive Means (ls : List Text) : Except LineError Index → Prop where
  | faulty {before after : List Text} {line word field : Text} : ls = before ++ line :: after →
    (∀ l ∈ before, Sound l) → Faulty line word field →
    Means ls (.error ⟨before.length + 1, .documentOfWord field word⟩)
  | sound {x : Index} : (∀ l ∈ ls, Sound l) → Gathers ls x → Means ls (.ok x)

section

variable {line word field w : Text} {fs good rest ls before after : List Text} {ds es : Postings}
  {x y : Index} {n : Nat}

theorem Lists.unique (h : Lists fs ds) (h' : Lists fs es) : ds = es :=
  AscSet.ext_mem fun d => (h d).trans (h' d).symm

/-- A line that names a word is the last one or not. -/
theorem lastFields_or_absent (ls : List Text) (w : Text) :
    (∃ fs, LastFields ls w fs) ∨ ∀ l ∈ ls, ¬ Names l w := by
  induction ls with
  | nil => exact .inr nofun
  | cons line ls ih =>
    rcases ih with ⟨fs, h⟩ | h
    · exact .inl ⟨fs, h.later⟩
    · by_cases hline : Names line w
      · obtain ⟨word, fs, hfields, hlower⟩ := hline
        exact .inl ⟨fs, .here hfields hlower h⟩
      · exact .inr (List.forall_mem_cons.mpr ⟨hline, h⟩)

/-- Lines mean one index at most. -/
theorem Gathers.unique (h : Gathers ls x) (h' : Gathers ls y) : x = y := by
  refine ext_get? fun w => ?_
  rcases lastFields_or_absent ls w with ⟨fs, hlast⟩ | habsent
  · obtain ⟨ds, hds, hlists⟩ := h.held w fs hlast
    obtain ⟨es, hes, hlists'⟩ := h'.held w fs hlast
    rw [hds, hes, hlists.unique hlists']
  · rw [h.absent w habsent, h'.absent w habsent]

theorem sound_or_faulty (line : Text) : Sound line ∨ ∃ word field, Faulty line word field := by
  unfold Sound Faulty
  cases Text.fields line with
  | nil => exact .inl nofun
  | cons word fs =>
    rcases Text.all_or_first DocId.IsSpelled fs with h | ⟨good, field, rest, rfl, h⟩
    · exact .inl h
    · exact .inr ⟨word, field, good, rest, rfl, h⟩

/-! ## Reading a line -/

theorem documentsOf_of_spelled (h : ∀ f ∈ fs, DocId.IsSpelled f) :
    ∃ ds, documentsOf fs = .ok ds ∧ Lists fs (.ofList ds) := by
  induction fs with
  | nil => exact ⟨[], rfl, fun d => by simp⟩
  | cons f fs ih =>
    obtain ⟨hf, hfs⟩ := List.forall_mem_cons.mp h
    obtain ⟨d, hd⟩ := DocId.isSpelled_iff.mp hf
    obtain ⟨ds, hds, hlists⟩ := ih hfs
    refine ⟨d :: ds, ?_, fun e => ?_⟩
    · simp only [documentsOf, hd, hds]
      rfl
    · have hfirst : Text.SpellsNumber f e.toNat ↔ e = d := by
        rw [← DocId.ofText?_eq_some_iff, hd, Option.some.injEq, eq_comm]
      have hmore := hlists e
      rw [AscSet.mem_ofList] at hmore ⊢
      simp only [List.mem_cons, exists_eq_or_imp, hfirst, hmore]

theorem documentsOf_append (hgood : ∀ f ∈ good, DocId.IsSpelled f)
    (hfield : ¬ DocId.IsSpelled field) : documentsOf (good ++ field :: rest) = .error field := by
  induction good with
  | nil =>
    rw [List.nil_append, documentsOf, DocId.ofText?_eq_none_iff.mpr hfield]
  | cons f good ih =>
    obtain ⟨hf, hgood⟩ := List.forall_mem_cons.mp hgood
    obtain ⟨d, hd⟩ := DocId.isSpelled_iff.mp hf
    simp only [List.cons_append, documentsOf, hd, ih hgood]
    rfl

theorem Faulty.readLine_eq (h : Faulty line word field) :
    readLine line = .error (.documentOfWord field word) := by
  obtain ⟨good, rest, hfields, hgood, hfield⟩ := h
  simp only [readLine, hfields, documentsOf_append hgood hfield]

theorem readLine_of_blank (h : Text.fields line = []) : readLine line = .ok none := by
  simp only [readLine, h]

theorem Sound.readLine_eq (h : Sound line) (hfields : Text.fields line = word :: fs) :
    ∃ ds, readLine line = .ok (some (word, ds)) ∧ Lists fs ds := by
  unfold Sound at h
  rw [hfields, List.tail_cons] at h
  obtain ⟨ds, hds, hlists⟩ := documentsOf_of_spelled h
  refine ⟨.ofList ds, ?_, hlists⟩
  simp only [readLine, hfields, hds]

/-! ## Reading lines -/

/-- A sound line is passed over if it is blank, and puts in its word if it is not. -/
theorem Sound.readLines_cons (h : Sound line) (n : Nat) (x : Index) (ls : List Text) :
    (Text.fields line = [] ∧ readLines n x (line :: ls) = readLines (n + 1) x ls) ∨
      ∃ word fs ds, Text.fields line = word :: fs ∧ Lists fs ds ∧
        readLines n x (line :: ls) = readLines (n + 1) (x.replace (Text.lower word) ds) ls := by
  cases hfields : Text.fields line with
  | nil => exact .inl ⟨rfl, by rw [readLines, readLine_of_blank hfields]⟩
  | cons word fs =>
    obtain ⟨ds, hread, hlists⟩ := h.readLine_eq hfields
    exact .inr ⟨word, fs, ds, rfl, hlists, by rw [readLines, hread]⟩

/-- **The first faulty line** is the result, whatever comes before and after it. -/
theorem readLines_faulty (hbefore : ∀ l ∈ before, Sound l) (hline : Faulty line word field) :
    readLines n x (before ++ line :: after) =
      .error ⟨n + before.length, .documentOfWord field word⟩ := by
  induction before generalizing n x with
  | nil =>
    rw [List.nil_append, readLines, hline.readLine_eq]
    rfl
  | cons l before ih =>
    obtain ⟨hl, hbefore⟩ := List.forall_mem_cons.mp hbefore
    have hlength : n + 1 + before.length = n + (l :: before).length := by
      rw [List.length_cons]
      omega
    rcases hl.readLines_cons n x (before ++ line :: after) with
      ⟨-, hread⟩ | ⟨_, _, _, -, -, hread⟩
    · rw [List.cons_append, hread, ih hbefore, hlength]
    · rw [List.cons_append, hread, ih hbefore, hlength]

/-- **Sound lines** put in the documents of the last line of each word, and keep the other words. -/
theorem readLines_sound (h : ∀ l ∈ ls, Sound l) : ∃ y, readLines n x ls = .ok y ∧
    (∀ w fs, LastFields ls w fs → ∃ ds, y.get? w = some ds ∧ Lists fs ds) ∧
      ∀ w, (∀ l ∈ ls, ¬ Names l w) → y.get? w = x.get? w := by
  induction ls generalizing n x with
  | nil => exact ⟨x, rfl, nofun, fun _ _ => rfl⟩
  | cons line ls ih =>
    obtain ⟨hline, hls⟩ := List.forall_mem_cons.mp h
    rcases hline.readLines_cons n x ls with
      ⟨hblank, hread⟩ | ⟨word, fs, ds, hfields, hlists, hread⟩
    · obtain ⟨y, hy, hheld, habsent⟩ := ih hls (n := n + 1) (x := x)
      refine ⟨y, hread.trans hy, fun w fs hlast => ?_, fun w hw => ?_⟩
      · cases hlast with
        | here hfields => rw [hblank] at hfields; cases hfields
        | later hlast => exact hheld w fs hlast
      · exact habsent w (List.forall_mem_cons.mp hw).2
    · obtain ⟨y, hy, hheld, habsent⟩ := ih hls (n := n + 1) (x := x.replace (Text.lower word) ds)
      refine ⟨y, hread.trans hy, fun w gs hlast => ?_, fun w hw => ?_⟩
      · cases hlast with
        | here hfields' hlower hafter =>
          rw [hfields] at hfields'
          cases hfields'
          refine ⟨ds, ?_, hlists⟩
          rw [habsent w hafter, get?_replace, if_pos hlower.symm]
        | later hlast => exact hheld w gs hlast
      · obtain ⟨hword, hafter⟩ := List.forall_mem_cons.mp hw
        have hne : w ≠ Text.lower word := fun e => hword ⟨word, fs, hfields, e.symm⟩
        rw [habsent w hafter, get?_replace, if_neg hne]

/-! ## Reading a text -/

/-- What a text means can be read. -/
theorem means_ofText (t : Text) : Means (Text.lines t) (ofText t) := by
  rcases Text.all_or_first Sound (Text.lines t) with
    hsound | ⟨before, line, after, hls, hbefore, hnot⟩
  · obtain ⟨x, hx, hheld, habsent⟩ := readLines_sound (n := 1) (x := ∅) hsound
    rw [ofText, hx]
    exact .sound hsound ⟨hheld, fun w hw => (habsent w hw).trans (get?_empty w)⟩
  · obtain ⟨word, field, hline⟩ := (sound_or_faulty line).resolve_left hnot
    rw [ofText, hls, readLines_faulty hbefore hline, Nat.add_comm]
    exact .faulty rfl hbefore hline

/-- Lines mean one thing. -/
theorem Means.eq_ofText {t : Text} {r : Except LineError Index} (h : Means (Text.lines t) r) :
    ofText t = r := by
  cases h with
  | faulty hls hbefore hline => rw [ofText, hls, readLines_faulty hbefore hline, Nat.add_comm]
  | sound hsound hx =>
    obtain ⟨y, hy, hheld, habsent⟩ := readLines_sound (n := 1) (x := ∅) hsound
    have hgathers : Gathers (Text.lines t) y :=
      ⟨hheld, fun w hw => (habsent w hw).trans (get?_empty w)⟩
    rw [ofText, hy, hx.unique hgathers]

end

/-- **Reading finds what a text means**: its lines say one by one whether it is an index, and which,
or else at which line and which field it is malformed; a fault is told with the file, the number of
the line, and the field and the word as they are written. -/
theorem ofText_eq_iff_means (t : Text) :
    (∀ r, ofText t = r ↔ Means (Text.lines t) r) ∧
      ∀ (file : Text) (n : Nat) (word field : Text),
        (Error.malformed file ⟨n, .documentOfWord field word⟩).message? =
          some (file ++ ':' :: (Text.toDecimal n ++ ':' :: ' ' ::
            ("invalid document id ".toList ++ Text.quoted field ++ " for lemma ".toList ++
              Text.quoted word))) := by
  refine ⟨fun r => ⟨?_, Means.eq_ofText⟩, fun file n word field => rfl⟩
  rintro rfl
  exact means_ofText t

/-- Blank lines count, and what comes after the fault does not. -/
example : ofText "b 1\n\nC +2 x 3\nd y".toList = .error ⟨3, .documentOfWord ['x'] ['C']⟩ := rfl

end Concordance.Index

import Concordance.Proofs.Text.Numbers
import Concordance.Proofs.Text.Trimming
import Concordance.Registry.Lines

/-!
# What the text of a registry means

The meaning of a registry text, said of its lines one by one. Without the white space around it, a
line registers a document, or it is faulty, or it is passed over. A text with a faulty line cannot be
read; any other text is the registry in which each document has the address on the last line that
registers it. Several lines may register one document, since a number has many spellings, and a
later address may be empty where an earlier one is not.

Reading goes along the lines with the number of the next one and the registry so far, so the lemmas
on `readLines` speak of any number and any registry at the start.

The text is read by `parse_registry`.

* `readLine_eq_error_iff`, `readLine_eq_some_iff`: what reading a line gives.
* `readLines_eq_error_iff`, `get?_of_readLines`: what reading further lines gives.
* **`ofText_registers`**: what a text registers.
-/

namespace Concordance.Registry

open Text (isDigits trim)

/-! ## What lines mean -/

/-- A line registers a document with an address. -/
inductive Registers (line : Text) (d : DocId) : Text → Prop where
  /-- The number of the document stands before the first tab, its address after it. -/
  | addressed {field url : Text} : trim line = field ++ '\t' :: url → '\t' ∉ field →
    Text.SpellsNumber (trim field) d.toNat → Registers line d (trim url)
  /-- The number of the document stands alone, in digits. -/
  | bare : '\t' ∉ trim line → isDigits (trim line) = true →
    Text.SpellsNumber (trim line) d.toNat → Registers line d []

/-- A field of a line should be a document number and is none: what stands before the first tab, or
a line of digits alone. -/
inductive Faulty (line : Text) : Text → Prop where
  | field {field url : Text} : trim line = field ++ '\t' :: url → '\t' ∉ field →
    ¬ DocId.IsSpelled (trim field) → Faulty line field
  | number : '\t' ∉ trim line → isDigits (trim line) = true → ¬ DocId.IsSpelled (trim line) →
    Faulty line (trim line)

/-- The address on the last of some lines that registers a document. -/
inductive LastAddress : List Text → DocId → Text → Prop where
  | here {line url : Text} {d : DocId} {ls : List Text} : Registers line d url →
    (∀ l ∈ ls, ∀ u, ¬ Registers l d u) → LastAddress (line :: ls) d url
  | later {line url : Text} {d : DocId} {ls : List Text} : LastAddress ls d url →
    LastAddress (line :: ls) d url

variable {line field url : Text} {ls : List Text} {d : DocId} {n : Nat} {r s : Registry}

theorem lastAddress_cons : LastAddress (line :: ls) d url ↔
    (Registers line d url ∧ ∀ l ∈ ls, ∀ u, ¬ Registers l d u) ∨ LastAddress ls d url := by
  constructor
  · intro h
    cases h with
    | here hline hls => exact .inl ⟨hline, hls⟩
    | later h => exact .inr h
  · rintro (⟨hline, hls⟩ | h)
    · exact .here hline hls
    · exact .later h

theorem lastAddress_or_absent (ls : List Text) (d : DocId) :
    (∃ url, LastAddress ls d url) ∨ ∀ l ∈ ls, ∀ u, ¬ Registers l d u := by
  induction ls with
  | nil => exact .inr nofun
  | cons line ls ih =>
    rcases ih with ⟨url, h⟩ | h
    · exact .inl ⟨url, .later h⟩
    · by_cases hline : ∃ u, Registers line d u
      · obtain ⟨u, hu⟩ := hline
        exact .inl ⟨u, .here hu h⟩
      · exact .inr (List.forall_mem_cons.mpr ⟨fun u hu => hline ⟨u, hu⟩, h⟩)

/-- An address has no character but those of its line, and no white space at its ends. -/
theorem Registers.address (h : Registers line d url) : url ⊆ line ∧ Text.Trimmed url := by
  cases h with
  | @addressed field rest hline _ _ =>
    refine ⟨fun c hc => Text.trim_subset line ?_, Text.trimmed_trim rest⟩
    rw [hline]
    exact List.mem_append_right _ (List.mem_cons_of_mem _ (Text.trim_subset rest hc))
  | bare => exact ⟨List.nil_subset line, nofun, nofun⟩

theorem LastAddress.exists_registers (h : LastAddress ls d url) :
    ∃ line ∈ ls, Registers line d url := by
  induction h with
  | here hline _ => exact ⟨_, List.mem_cons_self, hline⟩
  | later _ ih =>
    obtain ⟨line, hline, h⟩ := ih
    exact ⟨line, List.mem_cons_of_mem _ hline, h⟩

/-! ## Reading a line -/

theorem readLine_of_cut (hline : trim line = field ++ '\t' :: url) (hfield : '\t' ∉ field) :
    readLine line = match DocId.ofText? (trim field) with
      | some d => .ok (some (d, trim url))
      | none => .error (.document field) := by
  have hcut := Text.cutAt_beq_eq_some_iff.mpr ⟨hline, hfield⟩
  unfold readLine
  dsimp only
  split
  case h_1 h =>
    rw [hcut] at h
    cases h
    rfl
  case h_2 h =>
    rw [hcut] at h
    cases h

theorem readLine_of_not_mem (htab : '\t' ∉ trim line) :
    readLine line = if isDigits (trim line) then
        match DocId.ofText? (trim line) with
        | some d => .ok (some (d, []))
        | none => .error (.document (trim line))
      else .ok none := by
  have hcut := Text.cutAt_beq_eq_none_iff.mpr htab
  unfold readLine
  dsimp only
  split
  case h_1 h =>
    rw [hcut] at h
    cases h
  case h_2 => rfl

/-- **A line cannot be read** if it is faulty. -/
theorem readLine_eq_error_iff {fault : LineFault} :
    readLine line = .error fault ↔ ∃ field, Faulty line field ∧ fault = .document field := by
  constructor
  · intro h
    by_cases htab : '\t' ∈ trim line
    · obtain ⟨field, url, hline, hfield⟩ := List.eq_append_cons_of_mem htab
      rw [readLine_of_cut hline hfield] at h
      split at h
      · cases h
      · rename_i hnone
        cases h
        exact ⟨field, .field hline hfield (DocId.ofText?_eq_none_iff.mp hnone), rfl⟩
    · rw [readLine_of_not_mem htab] at h
      split at h
      · rename_i hdigits
        split at h
        · cases h
        · rename_i hnone
          cases h
          exact ⟨_, .number htab hdigits (DocId.ofText?_eq_none_iff.mp hnone), rfl⟩
      · cases h
  · rintro ⟨field, hfaulty, rfl⟩
    cases hfaulty with
    | field hline hfield hnone =>
      rw [readLine_of_cut hline hfield, DocId.ofText?_eq_none_iff.mpr hnone]
    | number htab hdigits hnone =>
      rw [readLine_of_not_mem htab, if_pos hdigits, DocId.ofText?_eq_none_iff.mpr hnone]

/-- **A line is read** as what it registers. -/
theorem readLine_eq_some_iff : readLine line = .ok (some (d, url)) ↔ Registers line d url := by
  constructor
  · intro h
    by_cases htab : '\t' ∈ trim line
    · obtain ⟨field, url, hline, hfield⟩ := List.eq_append_cons_of_mem htab
      rw [readLine_of_cut hline hfield] at h
      split at h
      · rename_i hsome
        cases h
        exact .addressed hline hfield (DocId.ofText?_eq_some_iff.mp hsome)
      · cases h
    · rw [readLine_of_not_mem htab] at h
      split at h
      · rename_i hdigits
        split at h
        · rename_i hsome
          cases h
          exact .bare htab hdigits (DocId.ofText?_eq_some_iff.mp hsome)
        · cases h
      · cases h
  · intro h
    cases h with
    | addressed hline hfield hnumber =>
      rw [readLine_of_cut hline hfield, DocId.ofText?_eq_some_iff.mpr hnumber]
    | bare htab hdigits hnumber =>
      rw [readLine_of_not_mem htab, if_pos hdigits, DocId.ofText?_eq_some_iff.mpr hnumber]

/-- A line that is not faulty is read, whether it registers a document or not. -/
theorem readLine_cases (line : Text) : (∃ field, Faulty line field) ∨
    ∃ o, readLine line = .ok o ∧ ∀ g, ¬ Faulty line g := by
  cases hread : readLine line with
  | error fault =>
    obtain ⟨field, hfaulty, -⟩ := readLine_eq_error_iff.mp hread
    exact .inl ⟨field, hfaulty⟩
  | ok o =>
    refine .inr ⟨o, rfl, fun g hg => ?_⟩
    rw [readLine_eq_error_iff.mpr ⟨g, hg, rfl⟩] at hread
    cases hread

/-! ## Reading lines -/

/-- A line that is read changes the registry by what it registers. -/
theorem readLines_cons_of_ok {o : Option (DocId × Text)} (h : readLine line = .ok o) :
    readLines n r (line :: ls) =
      readLines (n + 1) (o.elim r fun e => r.insert e.1 e.2) ls := by
  rw [readLines, h]
  cases o <;> rfl

/-- **Lines cannot be read** from the first faulty one on. -/
theorem readLines_eq_error_iff {e : LineError} :
    readLines n r ls = .error e ↔ ∃ before line after field, ls = before ++ line :: after ∧
      (∀ l ∈ before, ∀ g, ¬ Faulty l g) ∧ Faulty line field ∧
      e = ⟨n + before.length, .document field⟩ := by
  induction ls generalizing n r with
  | nil => simp [readLines]
  | cons line ls ih =>
    rcases readLine_cases line with ⟨field, hfaulty⟩ | ⟨o, hread, hsound⟩
    · rw [readLines, readLine_eq_error_iff.mpr ⟨field, hfaulty, rfl⟩]
      constructor
      · intro h
        cases h
        exact ⟨[], line, ls, field, rfl, nofun, hfaulty, rfl⟩
      · rintro ⟨before, l, after, g, hls, hbefore, hl, rfl⟩
        cases before with
        | nil =>
          cases hls
          have hsame := readLine_eq_error_iff.mpr ⟨g, hl, rfl⟩
          rw [readLine_eq_error_iff.mpr ⟨field, hfaulty, rfl⟩] at hsame
          cases hsame
          rfl
        | cons b before =>
          cases hls
          exact absurd hfaulty (hbefore line List.mem_cons_self field)
    · rw [readLines_cons_of_ok hread, ih]
      have hlength (before : List Text) : n + 1 + before.length = n + (line :: before).length := by
        rw [List.length_cons]
        omega
      constructor
      · rintro ⟨before, l, after, g, rfl, hbefore, hl, rfl⟩
        exact ⟨line :: before, l, after, g, rfl, List.forall_mem_cons.mpr ⟨hsound, hbefore⟩, hl,
          by rw [hlength]⟩
      · rintro ⟨before, l, after, g, hls, hbefore, hl, rfl⟩
        cases before with
        | nil =>
          cases hls
          exact absurd hl (hsound g)
        | cons b before =>
          cases hls
          exact ⟨before, l, after, g, rfl, (List.forall_mem_cons.mp hbefore).2, hl,
            by rw [hlength]⟩

/-- What a line that is read does to the address of a document. -/
theorem get?_elim_iff {o : Option (DocId × Text)} (h : readLine line = .ok o) :
    (o.elim r fun e => r.insert e.1 e.2).get? d = some url ↔
      Registers line d url ∨ (∀ u, ¬ Registers line d u) ∧ r.get? d = some url := by
  have hregisters (e : DocId) (u : Text) : Registers line e u ↔ o = some (e, u) := by
    rw [← readLine_eq_some_iff, h, Except.ok.injEq]
  simp only [hregisters]
  cases o with
  | none => simp
  | some e =>
    obtain ⟨e, u⟩ := e
    simp only [Option.elim_some, get?_insert, Option.some.injEq, Prod.mk.injEq]
    by_cases hd : d = e
    · subst hd
      simp
    · simp [hd, Ne.symm hd]

/-- **Lines that are read** put in the address on the last line of each document, and keep the
others. -/
theorem get?_of_readLines (h : readLines n r ls = .ok s) :
    s.get? d = some url ↔
      LastAddress ls d url ∨ (∀ l ∈ ls, ∀ u, ¬ Registers l d u) ∧ r.get? d = some url := by
  induction ls generalizing n r with
  | nil =>
    cases h
    have hnone : ¬ LastAddress [] d url := nofun
    simp [hnone]
  | cons line ls ih =>
    rcases readLine_cases line with ⟨field, hfaulty⟩ | ⟨o, hread, -⟩
    · rw [readLines, readLine_eq_error_iff.mpr ⟨field, hfaulty, rfl⟩] at h
      cases h
    · rw [readLines_cons_of_ok hread] at h
      rw [ih h, get?_elim_iff hread, lastAddress_cons, List.forall_mem_cons]
      grind

/-- **What a text registers**: the documents of its lines, each with the address on the last line
that registers it. No address has a line feed, or white space at its ends. -/
theorem ofText_registers {t : Text} (h : ofText t = .ok r) :
    (∀ d, d ∈ r.docIds ↔ ∃ line ∈ Text.lines t, ∃ url, Registers line d url) ∧
      (∀ d url, r.get? d = some url ↔ LastAddress (Text.lines t) d url) ∧
      ∀ d url, r.get? d = some url → '\n' ∉ url ∧ Text.Trimmed url := by
  have hget (d : DocId) (url : Text) : r.get? d = some url ↔ LastAddress (Text.lines t) d url := by
    rw [get?_of_readLines h, get?_empty]
    simp
  refine ⟨fun d => ?_, hget, fun d url hd => ?_⟩
  · simp only [mem_docIds, Option.isSome_iff_exists, hget]
    constructor
    · rintro ⟨url, hlast⟩
      obtain ⟨line, hline, hurl⟩ := hlast.exists_registers
      exact ⟨line, hline, url, hurl⟩
    · rintro ⟨line, hline, url, hurl⟩
      exact (lastAddress_or_absent _ d).resolve_right fun habsent => habsent line hline url hurl
  · obtain ⟨line, hline, hurl⟩ := ((hget d url).mp hd).exists_registers
    obtain ⟨hsub, htrimmed⟩ := hurl.address
    exact ⟨fun hmem => Text.not_mem_of_mem_lines hline (hsub hmem), htrimmed⟩

/-- Three spellings of one number, the last of them with an address that has a tab inside; another
number alone, and a line that is passed over. -/
theorem ofText_registers_respelled :
    let t := "007\thttp://a\r\n+7\t\n 8 \n+8\n7 \t b\tc \n".toList
    let r := ((∅ : Registry).insert 7 "b\tc".toList).insert 8 []
    ofText t = .ok r ∧ LastAddress (Text.lines t) 7 "b\tc".toList ∧
      LastAddress (Text.lines t) 8 [] := by
  intro t r
  have hread : ofText t = .ok r := rfl
  exact ⟨hread, ((ofText_registers hread).2.1 7 _).mp rfl,
    ((ofText_registers hread).2.1 8 _).mp rfl⟩

end Concordance.Registry

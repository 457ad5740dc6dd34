import Concordance.Proofs.Registry.Reading

/-!
# Malformed lines of a registry

A line is malformed as it is written if what stands before its first tab is no document number. It
is faulty if this is so once the white space around it is gone. That takes the first tab away where
nothing stands before it or after it, and a line that loses a tab so is read as another line: `abc`
and a tab is passed over, as a line without a tab is.

`parse_registry` trims a line before it looks for a tab.

* `malformed_iff`: the malformed lines are those that are faulty and those that lose their tab.
* **`ofText_eq_error_iff`**: reading a text fails at its first faulty line, which is the first
  malformed one if no line has lost a tab.
-/

namespace Concordance.Registry

open Text (isBlank isDigits trim)

variable {line field url : Text} {n : Nat}

/-- A line that is malformed as it is written: it is not blank and what stands before its first tab
is no document number, or it has no tab and its digits are those of too great a number. -/
inductive Malformed (line : Text) : Prop where
  | field {field url : Text} : line = field ++ '\t' :: url → '\t' ∉ field →
    isBlank line = false → ¬ DocId.IsSpelled (trim field) → Malformed line
  | number : '\t' ∉ line → isDigits (trim line) = true →
    UInt64.size ≤ Nat.ofDigitChars 10 (trim line) 0 → Malformed line

/-- A malformed line that is not found to be one, because its first tab is lost with the white space
around it: the tab comes first, and what follows it is not faulty, or the tab comes last, and what
stands before it is no number but not digits alone either. -/
inductive Lost (line : Text) : Prop where
  | start {field url : Text} : line = field ++ '\t' :: url → '\t' ∉ field →
    isBlank field = true → isBlank url = false → (∀ g, ¬ Faulty url g) → Lost line
  | stop {field url : Text} : line = field ++ '\t' :: url → '\t' ∉ field →
    isBlank field = false → isBlank url = true → isDigits (trim field) = false →
    ¬ DocId.IsSpelled (trim field) → Lost line

/-! ## Trimming a line with a tab -/

theorem isBlank_cons : isBlank ('\t' :: url) = isBlank url := rfl

theorem isBlank_append_cons : isBlank (field ++ '\t' :: url) = (isBlank field && isBlank url) := by
  rw [Text.isBlank_append, isBlank_cons]

/-- A line is trimmed to what follows a blank field. -/
theorem trim_of_isBlank_field (h : isBlank field = true) :
    trim (field ++ '\t' :: url) = trim url := by
  have hstart : isBlank (field ++ ['\t']) = true := by rw [isBlank_append_cons, h]; rfl
  have hsplit : field ++ '\t' :: url = field ++ ['\t'] ++ url := by
    rw [List.append_assoc, List.singleton_append]
  rw [hsplit, Text.trim_append_left hstart]

/-- A line is trimmed to what comes before a blank address. -/
theorem trim_of_isBlank_url (h : isBlank url = true) : trim (field ++ '\t' :: url) = trim field :=
  Text.trim_append_right (isBlank_cons.trans h) field

theorem not_isSpelled_of_isBlank (h : isBlank field = true) : ¬ DocId.IsSpelled (trim field) := by
  rw [Text.trim_eq_nil_iff.mpr h]
  exact DocId.ofText?_eq_none_iff.mp rfl

theorem Faulty.congr {line' : Text} (h : Faulty line field) (htrim : trim line = trim line') :
    Faulty line' field := by
  cases h with
  | field hline hfield hnone => exact .field (htrim ▸ hline) hfield hnone
  | number htab hdigits hnone =>
    rw [htrim] at *
    exact .number htab hdigits hnone

theorem Faulty.isBlank_eq_false (h : Faulty line field) : isBlank line = false := by
  rw [Bool.eq_false_iff]
  intro hblank
  have hnil := Text.trim_eq_nil_iff.mpr hblank
  cases h with
  | field hline =>
    rw [hnil] at hline
    exact List.append_ne_nil_of_right_ne_nil _ (List.cons_ne_nil _ _) hline.symm
  | number _ hdigits =>
    rw [hnil] at hdigits
    cases hdigits

/-! ## Malformed lines -/

/-- A line that starts with a tab, but for white space, is malformed. -/
theorem malformed_of_start {a b : Text} (ha : isBlank a = true) (htab : '\t' ∈ a)
    (hb : isBlank b = false) : Malformed (a ++ b) := by
  obtain ⟨field, rest, rfl, hfield⟩ := List.eq_append_cons_of_mem htab
  rw [isBlank_append_cons, Bool.and_eq_true] at ha
  have hcut : field ++ '\t' :: rest ++ b = field ++ '\t' :: (rest ++ b) := by
    rw [List.append_assoc, List.cons_append]
  refine .field hcut hfield ?_ (not_isSpelled_of_isBlank ha.1)
  · rw [Text.isBlank_append, hb, Bool.and_false]

/-- A faulty line is malformed. -/
theorem Faulty.malformed (h : Faulty line field) : Malformed line := by
  have hblank := h.isBlank_eq_false
  obtain ⟨a, b, ha, hb, hline⟩ := Text.exists_trim line
  by_cases hstart : '\t' ∈ a
  · rw [hline] at hblank ⊢
    refine malformed_of_start ha hstart ?_
    rwa [Text.isBlank_append, ha, Bool.true_and] at hblank
  cases h with
  | @field field url hcut hfield hnone =>
    have hcut' : line = a ++ field ++ '\t' :: (url ++ b) := by
      rw [hcut] at hline
      simpa only [List.append_assoc, List.cons_append] using hline
    refine .field hcut' ?_ hblank ?_
    · exact fun hmem => (List.mem_append.mp hmem).elim hstart hfield
    · rwa [Text.trim_append_left ha]
  | number hcut hdigits hnone =>
    by_cases hend : '\t' ∈ b
    · obtain ⟨b₁, b₂, rfl, hb₁⟩ := List.eq_append_cons_of_mem hend
      rw [isBlank_append_cons, Bool.and_eq_true] at hb
      have hcut' : line = a ++ (trim line ++ b₁) ++ '\t' :: b₂ := by
        simpa only [List.append_assoc] using hline
      refine .field hcut' ?_ hblank ?_
      · simp only [List.mem_append, hstart, hcut, hb₁, or_self, not_false_iff]
      · rwa [Text.trim_append_left ha, Text.trim_append_right hb.1,
          (Text.trimmed_trim line).trim_eq]
    · refine .number ?_ hdigits ?_
      · rw [hline]
        simp only [List.mem_append, hstart, hcut, hend, or_self, not_false_iff]
      · rwa [DocId.isSpelled_iff_of_isDigits hdigits, Nat.not_lt] at hnone

/-- So is a line that loses its first tab. -/
theorem Lost.malformed (h : Lost line) : Malformed line := by
  cases h with
  | start hline hfield hblank hurl _ =>
    refine .field hline hfield ?_ (not_isSpelled_of_isBlank hblank)
    rw [hline, isBlank_append_cons, hurl, Bool.and_false]
  | stop hline hfield hblank _ _ hnone =>
    refine .field hline hfield ?_ hnone
    rw [hline, isBlank_append_cons, hblank, Bool.false_and]

/-- A line that loses its first tab is not faulty. -/
theorem Lost.not_faulty (h : Lost line) (g : Text) : ¬ Faulty line g := by
  cases h with
  | start hline _ hblank _ hsound =>
    exact fun hfaulty => hsound g (hfaulty.congr (by rw [hline, trim_of_isBlank_field hblank]))
  | @stop field url hline hfield _ hblank hdigits _ =>
    have htrim : trim line = trim field := by rw [hline, trim_of_isBlank_url hblank]
    intro hfaulty
    cases hfaulty with
    | field hcut =>
      rw [htrim] at hcut
      refine hfield (Text.trim_subset field ?_)
      rw [hcut]
      exact List.mem_append_right _ List.mem_cons_self
    | number _ hdigits' =>
      rw [htrim, hdigits] at hdigits'
      cases hdigits'

/-- A malformed line is faulty unless it loses its first tab. -/
theorem Malformed.faulty_or_lost (h : Malformed line) : (∃ g, Faulty line g) ∨ Lost line := by
  cases h with
  | @field field url hline hfield hblank hnone =>
    rw [hline, isBlank_append_cons, Bool.and_eq_false_iff] at hblank
    cases hstart : isBlank field with
    | true =>
      -- What follows the tab is read as if it were the line.
      have hurl : isBlank url = false := hblank.resolve_left (by simp [hstart])
      by_cases hfaulty : ∃ g, Faulty url g
      · obtain ⟨g, hg⟩ := hfaulty
        exact .inl ⟨g, hg.congr (by rw [hline, trim_of_isBlank_field hstart])⟩
      · exact .inr (.start hline hfield hstart hurl (not_exists.mp hfaulty))
    | false =>
      cases hend : isBlank url with
      | true =>
        have htrim : trim line = trim field := by rw [hline, trim_of_isBlank_url hend]
        cases hdigits : isDigits (trim field) with
        | true =>
          rw [← htrim] at hdigits hnone
          refine .inl ⟨_, .number (fun htab => hfield ?_) hdigits hnone⟩
          rw [htrim] at htab
          exact Text.trim_subset field htab
        | false => exact .inr (.stop hline hfield hstart hend hdigits hnone)
      | false =>
        obtain ⟨a, b, hcut, ha, htrim⟩ := Text.trim_append_cons hstart hend '\t'
        rw [← hline] at hcut
        exact .inl ⟨a, .field hcut (fun htab => hfield (ha htab)) (by rwa [htrim])⟩
  | number htab hdigits hgreat =>
    refine .inl ⟨_, .number (fun hmem => htab (Text.trim_subset line hmem)) hdigits ?_⟩
    rwa [DocId.isSpelled_iff_of_isDigits hdigits, Nat.not_lt]

/-- **The malformed lines** are those that are faulty without the white space around them and those
that lose their first tab with it. -/
theorem malformed_iff : Malformed line ↔ (∃ g, Faulty line g) ∨ Lost line :=
  ⟨Malformed.faulty_or_lost, fun h => h.elim (fun ⟨_, hg⟩ => hg.malformed) Lost.malformed⟩

/-! ## Malformed texts -/

/-- The first of some lines with a property has a number, counted from one. -/
def IsFirst (P : Text → Prop) (ls : List Text) (n : Nat) : Prop :=
  ∃ before line after, ls = before ++ line :: after ∧ (∀ l ∈ before, ¬ P l) ∧ P line ∧
    n = before.length + 1

theorem exists_isFirst {P : Text → Prop} {ls : List Text} (h : ∃ l ∈ ls, P l) :
    ∃ n, IsFirst P ls n := by
  rcases Text.all_or_first (¬ P ·) ls with hnone | ⟨before, line, after, hls, hbefore, hline⟩
  · obtain ⟨l, hl, hP⟩ := h
    exact absurd hP (hnone l hl)
  · exact ⟨_, before, line, after, hls, hbefore, Classical.not_not.mp hline, rfl⟩

/-- **A text cannot be read** from its first faulty line on. -/
theorem ofText_eq_error {t : Text} {e : LineError} :
    ofText t = .error e ↔ ∃ before line after field, Text.lines t = before ++ line :: after ∧
      (∀ l ∈ before, ∀ g, ¬ Faulty l g) ∧ Faulty line field ∧
      e = ⟨before.length + 1, .document field⟩ := by
  simp only [ofText, readLines_eq_error_iff, Nat.add_comm 1]

/-- The number of the line at which a text cannot be read is that of its first faulty line. -/
theorem exists_ofText_eq_error_iff {t : Text} : (∃ fault, ofText t = .error ⟨n, fault⟩) ↔
    IsFirst (fun l => ∃ g, Faulty l g) (Text.lines t) n := by
  simp only [ofText_eq_error, LineError.mk.injEq, IsFirst, not_exists]
  constructor
  · rintro ⟨fault, before, line, after, g, hls, hbefore, hline, hn, -⟩
    exact ⟨before, line, after, hls, hbefore, ⟨g, hline⟩, hn⟩
  · rintro ⟨before, line, after, hls, hbefore, ⟨g, hline⟩, hn⟩
    exact ⟨_, before, line, after, g, hls, hbefore, hline, hn, rfl⟩

/-- **Reading fails at the first faulty line**, and this is the first malformed line, for every text
whose first malformed line has not lost its tab, and for no other. -/
theorem ofText_eq_error_iff (t : Text) :
    (∀ e, ofText t = .error e ↔ ∃ before line after field,
        Text.lines t = before ++ line :: after ∧ (∀ l ∈ before, ∀ g, ¬ Faulty l g) ∧
        Faulty line field ∧ e = ⟨before.length + 1, .document field⟩) ∧
      ((∀ n, (∃ fault, ofText t = .error ⟨n, fault⟩) ↔ IsFirst Malformed (Text.lines t) n) ↔
        ∀ before line after, Text.lines t = before ++ line :: after →
          (∀ l ∈ before, ¬ Malformed l) → ¬ Lost line) := by
  refine ⟨fun e => ofText_eq_error, ?_⟩
  simp only [exists_ofText_eq_error_iff]
  constructor
  · intro h before line after hls hbefore hlost
    obtain ⟨before', line', after', hls', -, ⟨g, hfaulty⟩, hlength⟩ :=
      (h _).mpr ⟨before, line, after, hls, hbefore, hlost.malformed, rfl⟩
    -- The faulty line is the one that has lost its tab.
    have hsame : before = before' ∧ line :: after = line' :: after' :=
      List.append_inj (hls.symm.trans hls') (by omega)
    cases hsame.2
    exact hlost.not_faulty g hfaulty
  · intro h n
    constructor
    · rintro ⟨before, line, after, hls, hbefore, ⟨g, hline⟩, hn⟩
      refine ⟨before, line, after, hls, fun l hl hmalformed => ?_, hline.malformed, hn⟩
      -- The first malformed line before it would have lost its tab.
      obtain ⟨_, before', line', after', rfl, hbefore', hline', -⟩ :=
        exists_isFirst ⟨l, hl, hmalformed⟩
      have hsound := hbefore line' (List.mem_append_right _ List.mem_cons_self)
      rw [List.append_assoc, List.cons_append] at hls
      exact h before' line' _ hls hbefore' (hline'.faulty_or_lost.resolve_left hsound)
    · rintro ⟨before, line, after, hls, hbefore, hline, hn⟩
      refine ⟨before, line, after, hls, fun l hl hfaulty => ?_, ?_, hn⟩
      · obtain ⟨g, hg⟩ := hfaulty
        exact hbefore l hl hg.malformed
      · exact hline.faulty_or_lost.resolve_right (h before line after hls hbefore)

/-- A text whose first line is malformed with and without the white space around it. -/
theorem ofText_eq_error_iff_kept :
    let t := " b \tc\n\t1\n".toList
    (∃ fault, ofText t = .error ⟨1, fault⟩) ∧ IsFirst Malformed (Text.lines t) 1 := by
  intro t
  have hcut : trim " b \tc".toList = "b ".toList ++ '\t' :: ['c'] := rfl
  have hfaulty : Faulty " b \tc".toList "b ".toList :=
    .field hcut (by decide) (DocId.ofText?_eq_none_iff.mp rfl)
  have hread : ofText t = .error ⟨1, .document "b ".toList⟩ := rfl
  have hkept : ∀ before line after, Text.lines t = before ++ line :: after →
      (∀ l ∈ before, ¬ Malformed l) → ¬ Lost line := by
    intro before line after hls hbefore hlost
    have hlines : Text.lines t = [" b \tc".toList, "\t1".toList] := rfl
    rw [hlines] at hls
    cases before with
    | nil =>
      cases hls
      exact hlost.not_faulty _ hfaulty
    | cons l before =>
      obtain ⟨rfl, -⟩ := List.cons.inj hls
      exact hbefore _ List.mem_cons_self hfaulty.malformed
  exact ⟨⟨_, hread⟩, ((ofText_eq_error_iff t).2.mpr hkept 1).mp ⟨_, hread⟩⟩

/-- Lines that lose their first tab are passed over, or read as other lines. -/
theorem ofText_lost :
    (IsFirst Malformed (Text.lines "abc\t\n".toList) 1 ∧ ofText "abc\t\n".toList = .ok ∅) ∧
      (IsFirst Malformed (Text.lines "\thttp://x\n".toList) 1 ∧
        ofText "\thttp://x\n".toList = .ok ∅) ∧
      IsFirst Malformed (Text.lines "\t5\thttp://x\n".toList) 1 ∧
        ofText "\t5\thttp://x\n".toList = .ok ((∅ : Registry).insert 5 "http://x".toList) := by
  have habc : "abc\t".toList = "abc".toList ++ '\t' :: [] := rfl
  have haddress : "\thttp://x".toList = [] ++ '\t' :: "http://x".toList := rfl
  have hfive : "\t5\thttp://x".toList = [] ++ '\t' :: "5\thttp://x".toList := rfl
  refine ⟨⟨⟨[], _, [], rfl, nofun, ?_, rfl⟩, rfl⟩, ⟨⟨[], _, [], rfl, nofun, ?_, rfl⟩, rfl⟩,
    ⟨[], _, [], rfl, nofun, ?_, rfl⟩, rfl⟩
  · exact .field habc (by decide) rfl (DocId.ofText?_eq_none_iff.mp rfl)
  · exact .field haddress (by decide) rfl (DocId.ofText?_eq_none_iff.mp rfl)
  · exact .field hfive (by decide) rfl (DocId.ofText?_eq_none_iff.mp rfl)

end Concordance.Registry

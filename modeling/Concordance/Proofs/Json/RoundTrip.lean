import Concordance.Json.Forms
import Concordance.Proofs.Text.Cutting
import Concordance.Proofs.Text.Numbers

/-!
# Reading JSON that was written

What is written on lines of its own reads back as the value that was written, if the leaves of the
value are spelled as reading spells them (`Value.Spelled`). The readers return what they leave with
a proof that it is shorter, so the lemmas say what they make of a text (`Gives`) without that proof.

A number has no end of its own, so a value is read up to a text that no number goes on with
(`Ends`); in what is written that is a comma, a line feed or the end. The proofs about values, items
and members follow the recursion of the writer. What a value looks like to its reader is said once,
by its first character (`Opens`), and so is what may follow an item or a member (`MoreItems`,
`MoreMembers`).

* **`readString_escape`**: the spelling of a text is read as it is.
* **`readValue_indented`**: so is a value, from where it starts to where it ends.
* **`read?_indented`**: a value with nothing after it but white space reads back.
* `spelled_ofText`, `spelled_ofNat`: texts and numbers are spelled well.
* `record?_zip`: the fields of a record that was written.
-/

namespace Concordance.Json

variable {t r rest s key : Text} {c : Char} {v : Value} {vs : List Value}
variable {ms : List (Text × Value)} {n level : Nat}

/-- A reader makes something of a text and leaves a rest of it. -/
def Gives {α : Type} {t : Text} (o : Option (Shorter α t)) (a : α) (rest : Text) : Prop :=
  ∃ h, o = some ⟨(a, rest), h⟩

/-! ## Strings -/

theorem readString_letter {x y : Char} (hx : x ≠ 'u') (hy : escaped? x = some y)
    (h : Gives (readString t) s rest) :
    Gives (readString ('\\' :: x :: t)) ('\\' :: x :: s) rest := by
  obtain ⟨hlt, h⟩ := h
  unfold Gives
  rw [readString]
  · rw [hy, h]
    exact ⟨_, rfl⟩
  all_goals simp_all

theorem readString_code {x₁ x₂ x₃ x₄ : Char} (hcode : hexCode? x₁ x₂ x₃ x₄ = some n)
    (h : Gives (readString t) s rest) :
    Gives (readString ('\\' :: 'u' :: x₁ :: x₂ :: x₃ :: x₄ :: t))
      ('\\' :: 'u' :: x₁ :: x₂ :: x₃ :: x₄ :: s) rest := by
  obtain ⟨hlt, h⟩ := h
  unfold Gives
  rw [readString, hcode, h]
  exact ⟨_, rfl⟩

theorem readString_plain (hquote : c ≠ '"') (hslash : c ≠ '\\') (hlow : ¬ c.toNat < 0x20)
    (h : Gives (readString t) s rest) : Gives (readString (c :: t)) (c :: s) rest := by
  obtain ⟨hlt, h⟩ := h
  unfold Gives
  rw [readString]
  · rw [if_neg (by simp [hslash, hlow]), h]
    exact ⟨_, rfl⟩
  all_goals simp_all

theorem readString_escapeChar (c : Char) (h : Gives (readString t) s rest) :
    Gives (readString (escapeChar c ++ t)) (escapeChar c ++ s) rest := by
  rcases escapeChar_cases c with ⟨x, hc, hx, hletter⟩ | ⟨x, y, hc, hcode, -⟩ |
    ⟨hc, hquote, hslash, hlow⟩
  · rw [hc]
    exact readString_letter hx hletter h
  · rw [hc]
    exact readString_code hcode h
  · rw [hc]
    exact readString_plain hquote hslash hlow h

/-- **The spelling of a text is read** up to the quote after it. -/
theorem readString_escape (t rest : Text) :
    Gives (readString (escape t ++ '"' :: rest)) (escape t) rest := by
  induction t with
  | nil =>
    unfold Gives
    rw [escape, List.flatMap_nil, List.nil_append, readString]
    exact ⟨_, rfl⟩
  | cons c t ih =>
    rw [escape, List.flatMap_cons, List.append_assoc, ← escape]
    exact readString_escapeChar c ih

/-! ## Values -/

/-- A number ends before a text. -/
def Ends (t : Text) : Prop := ∀ c, t.head? = some c → isNumberChar c = false

theorem ends_cons (hc : isNumberChar c = false) : Ends (c :: t) := by
  rintro d ⟨⟩
  exact hc

theorem takeWhile_append_of_ends (hs : ∀ x ∈ s, isNumberChar x = true) (hrest : Ends rest) :
    (s ++ rest).takeWhile isNumberChar = s ∧ (s ++ rest).dropWhile isNumberChar = rest := by
  rw [List.takeWhile_append_of_pos hs, List.dropWhile_append_of_pos hs]
  cases rest with
  | nil => simp
  | cons x rest =>
    have hx := hrest x rfl
    simp [hx]

/-- A text starts with what is read as a value, without white space before it. -/
inductive Opens : Text → Value → Text → Prop where
  | null {rest : Text} : Opens ('n' :: 'u' :: 'l' :: 'l' :: rest) .null rest
  | true {rest : Text} : Opens ('t' :: 'r' :: 'u' :: 'e' :: rest) (.bool true) rest
  | false {rest : Text} : Opens ('f' :: 'a' :: 'l' :: 's' :: 'e' :: rest) (.bool false) rest
  | num {c : Char} {s rest : Text} : isNumber (c :: s) = Bool.true → isNumberChar c = Bool.true →
    (∀ x ∈ s, isNumberChar x = Bool.true) → Ends rest →
    Opens (c :: (s ++ rest)) (.num (c :: s)) rest
  | str {r s rest : Text} : Gives (readString r) s rest → Opens ('"' :: r) (.str s) rest
  | arr_nil {r rest : Text} : skip r = ']' :: rest → Opens ('[' :: r) (.arr []) rest
  | arr {r rest : Text} {vs : List Value} : (∀ r', skip r ≠ ']' :: r') →
    Gives (readItems r) vs rest → Opens ('[' :: r) (.arr vs) rest
  | obj_nil {r rest : Text} : skip r = '\x7d' :: rest → Opens ('\x7b' :: r) (.obj []) rest
  | obj {r rest : Text} {ms : List (Text × Value)} : (∀ r', skip r ≠ '\x7d' :: r') →
    Gives (readMembers r) ms rest → Opens ('\x7b' :: r) (.obj ms) rest

/-- **A value is read** where a text opens with it. -/
theorem Opens.gives (h : Opens (skip t) v rest) : Gives (readValue t) v rest := by
  unfold readValue
  split
  · rename_i heq
    rw [heq] at h
    cases h
  · rename_i c r heq
    rw [heq] at h
    -- The reader tests the first character in a fixed order, so the tests before the one that holds
    -- are refuted one by one.
    cases h with
    | null =>
      rw [if_neg (by decide), if_neg (by decide), if_neg (by decide), if_neg (by decide),
        if_neg (by decide), if_pos rfl]
      exact ⟨_, rfl⟩
    | true =>
      rw [if_neg (by decide), if_neg (by decide), if_neg (by decide), if_pos rfl]
      exact ⟨_, rfl⟩
    | false =>
      rw [if_neg (by decide), if_neg (by decide), if_neg (by decide), if_neg (by decide),
        if_pos rfl]
      exact ⟨_, rfl⟩
    | @num _ s _ hnumber hc hs hrest =>
      -- No character of a number starts any other value.
      have hne (x : Char) (hx : isNumberChar x = Bool.false) : c ≠ x := by
        rintro rfl
        exact Bool.false_ne_true (hx.symm.trans hc)
      obtain ⟨htake, hdrop⟩ := takeWhile_append_of_ends hs hrest
      rw [if_neg (hne _ (by decide)), if_neg (hne _ (by decide)), if_neg (hne _ (by decide)),
        if_neg (hne _ (by decide)), if_neg (hne _ (by decide)), if_neg (hne _ (by decide))]
      simp only [htake, hdrop, hnumber, if_true]
      exact ⟨_, rfl⟩
    | str h =>
      obtain ⟨hlt, h⟩ := h
      rw [if_pos rfl, h]
      exact ⟨_, rfl⟩
    | arr_nil h =>
      rw [if_neg (by decide), if_pos rfl]
      split
      · rename_i heq
        rw [h] at heq
        cases heq
        exact ⟨_, rfl⟩
      · rename_i hnone
        exact absurd h (hnone _)
    | arr hne h =>
      obtain ⟨hlt, h⟩ := h
      rw [if_neg (by decide), if_pos rfl]
      split
      · rename_i heq
        exact absurd heq (hne _)
      · rw [h]
        exact ⟨_, rfl⟩
    | obj_nil h =>
      rw [if_neg (by decide), if_neg (by decide), if_pos rfl]
      split
      · rename_i heq
        rw [h] at heq
        cases heq
        exact ⟨_, rfl⟩
      · rename_i hnone
        exact absurd h (hnone _)
    | obj hne h =>
      obtain ⟨hlt, h⟩ := h
      rw [if_neg (by decide), if_neg (by decide), if_pos rfl]
      split
      · rename_i heq
        exact absurd heq (hne _)
      · rw [h]
        exact ⟨_, rfl⟩

/-! ## Items and members -/

/-- What follows an item of a list: its end, or a comma and further items. -/
inductive MoreItems : Text → List Value → Text → Prop where
  | done {r rest : Text} : skip r = ']' :: rest → MoreItems r [] rest
  | more {r s rest : Text} {vs : List Value} : skip r = ',' :: s → Gives (readItems s) vs rest →
    MoreItems r vs rest

/-- What follows a member of an object: its end, or a comma and further members. -/
inductive MoreMembers : Text → List (Text × Value) → Text → Prop where
  | done {r rest : Text} : skip r = '\x7d' :: rest → MoreMembers r [] rest
  | more {r s rest : Text} {ms : List (Text × Value)} : skip r = ',' :: s →
    Gives (readMembers s) ms rest → MoreMembers r ms rest

theorem MoreItems.gives (hmore : MoreItems r vs rest) (h : Gives (readValue t) v r) :
    Gives (readItems t) (v :: vs) rest := by
  obtain ⟨hlt, h⟩ := h
  unfold readItems
  rw [h]
  dsimp only
  cases hmore with
  | done hr =>
    split
    · simp_all
    · rename_i heq
      rw [hr] at heq
      cases heq
      exact ⟨_, rfl⟩
    · rename_i hnone
      exact absurd hr (hnone _)
  | more hr hs =>
    obtain ⟨hlt', hs⟩ := hs
    split
    · rename_i heq
      rw [hr] at heq
      cases heq
      rw [hs]
      exact ⟨_, rfl⟩
    · simp_all
    · rename_i hnone _
      exact absurd hr (hnone _)

theorem MoreMembers.gives {r₁ r₂ r₃ : Text} (hmore : MoreMembers r₃ ms rest)
    (ht : skip t = '"' :: r) (hkey : Gives (readString r) key r₁) (hcolon : skip r₁ = ':' :: r₂)
    (h : Gives (readValue r₂) v r₃) : Gives (readMembers t) ((key, v) :: ms) rest := by
  obtain ⟨hlt, hkey⟩ := hkey
  obtain ⟨hlt', h⟩ := h
  unfold readMembers
  split
  case h_2 hnone => exact absurd ht (hnone _)
  rename_i heq
  rw [ht] at heq
  cases heq
  rw [hkey]
  dsimp only
  split
  case h_2 hnone => exact absurd hcolon (hnone _)
  rename_i heq
  rw [hcolon] at heq
  cases heq
  rw [h]
  dsimp only
  cases hmore with
  | done hr =>
    split
    · simp_all
    · rename_i heq
      rw [hr] at heq
      cases heq
      exact ⟨_, rfl⟩
    · rename_i hnone
      exact absurd hr (hnone _)
  | more hr hs =>
    obtain ⟨hlt'', hs⟩ := hs
    split
    · rename_i heq
      rw [hr] at heq
      cases heq
      rw [hs]
      exact ⟨_, rfl⟩
    · simp_all
    · rename_i hnone _
      exact absurd hr (hnone _)

/-! ## Values that were written -/

mutual

/-- Every number, string and key in a value is spelled so that it is read as it is. -/
def Value.Spelled : Value → Prop
  | .null => True
  | .bool _ => True
  | .num s => isNumber s = true ∧ ∀ c ∈ s, isNumberChar c = true
  | .str s => ∀ rest, Gives (readString (s ++ '"' :: rest)) s rest
  | .arr items => AllSpelled items
  | .obj members => MembersSpelled members

/-- Every number, string and key in each item is spelled so that it is read as it is. -/
def AllSpelled : List Value → Prop
  | [] => True
  | v :: vs => v.Spelled ∧ AllSpelled vs

/-- Every number, string and key in each member is spelled so that it is read as it is. -/
def MembersSpelled : List (Text × Value) → Prop
  | [] => True
  | (key, v) :: ms =>
    (∀ rest, Gives (readString (key ++ '"' :: rest)) key rest) ∧ v.Spelled ∧ MembersSpelled ms

end

theorem skip_cons_of_not_gap (hc : isGap c = false) : skip (c :: t) = c :: t :=
  List.dropWhile_cons_of_neg (by simp [hc])

/-- A new line is skipped, whatever its level. -/
theorem skip_newline (level : Nat) (t : Text) : skip (newline level ++ t) = skip t := by
  have hgap : ∀ c ∈ newline level, isGap c = true := by
    intro c hc
    rcases List.mem_cons.mp hc with rfl | hc
    · decide
    · rw [List.eq_of_mem_replicate hc]
      decide
  exact List.dropWhile_append_of_pos hgap

theorem isGap_of_isNumberChar (hc : isNumberChar c = true) : isGap c = false := by
  rw [Bool.eq_false_iff]
  intro hgap
  simp only [isGap, Bool.or_eq_true, decide_eq_true_eq] at hgap
  rcases hgap with ((rfl | rfl) | rfl) | rfl <;> exact absurd hc (by decide)

/-- What is written for a value starts with neither white space nor the end of a list. -/
theorem exists_indented (hv : v.Spelled) (level : Nat) :
    ∃ c s, v.indented level = c :: s ∧ isGap c = false ∧ c ≠ ']' := by
  cases v with
  | null => exact ⟨_, _, rfl, by decide, by decide⟩
  | bool b => cases b <;> exact ⟨_, _, rfl, by decide, by decide⟩
  | num s =>
    obtain ⟨hnumber, hchars⟩ := hv
    cases s with
    | nil => cases hnumber
    | cons c s =>
      have hc := hchars c List.mem_cons_self
      refine ⟨c, s, rfl, isGap_of_isNumberChar hc, ?_⟩
      rintro rfl
      exact absurd hc (by decide)
  | str s => exact ⟨_, _, rfl, by decide, by decide⟩
  | arr items => cases items <;> exact ⟨_, _, rfl, by decide, by decide⟩
  | obj members => cases members <;> exact ⟨_, _, rfl, by decide, by decide⟩

theorem skip_indented (hv : v.Spelled) (level : Nat) (t : Text) :
    skip (v.indented level ++ t) = v.indented level ++ t := by
  obtain ⟨c, s, hvalue, hc, -⟩ := exists_indented hv level
  rw [hvalue, List.cons_append, skip_cons_of_not_gap hc]

theorem indentedItems_cons (level : Nat) (v w : Value) (vs : List Value) :
    indentedItems level (v :: w :: vs) =
      newline level ++ (v.indented level ++ ',' :: indentedItems level (w :: vs)) := by
  rw [indentedItems, List.append_assoc]
  exact List.cons_ne_nil w vs

theorem indentedMembers_single (level : Nat) (key : Text) (v : Value) :
    indentedMembers level [(key, v)] =
      newline level ++ '"' :: (key ++ '"' :: ':' :: ' ' :: v.indented level) := by
  simp [indentedMembers, quote]

theorem indentedMembers_cons (level : Nat) (key : Text) (v : Value) (m : Text × Value)
    (ms : List (Text × Value)) :
    indentedMembers level ((key, v) :: m :: ms) =
      newline level ++ '"' :: (key ++ '"' :: ':' :: ' ' ::
        (v.indented level ++ ',' :: indentedMembers level (m :: ms))) := by
  simp [indentedMembers, quote]

/-- Items start with the first of them, on a new line. -/
theorem exists_indentedItems (level : Nat) (v : Value) (vs : List Value) :
    ∃ more, indentedItems level (v :: vs) = newline level ++ (v.indented level ++ more) := by
  cases vs with
  | nil => exact ⟨[], by rw [indentedItems, List.append_nil]⟩
  | cons w vs => exact ⟨_, indentedItems_cons level v w vs⟩

/-- Members start with the key of the first of them, on a new line. -/
theorem exists_indentedMembers (level : Nat) (m : Text × Value) (ms : List (Text × Value)) :
    ∃ more, indentedMembers level (m :: ms) = newline level ++ '"' :: more := by
  obtain ⟨key, v⟩ := m
  cases ms with
  | nil => exact ⟨_, indentedMembers_single level key v⟩
  | cons m ms => exact ⟨_, indentedMembers_cons level key v m ms⟩

mutual

/-- **A value that was written is read** from where it starts, unless a number goes on. -/
theorem readValue_indented (v : Value) (hv : v.Spelled) (level : Nat) {t rest : Text}
    (ht : skip t = v.indented level ++ rest) (hrest : Ends rest) : Gives (readValue t) v rest := by
  refine Opens.gives ?_
  rw [ht]
  match v, hv with
  | .null, _ => exact .null
  | .bool true, _ => exact .true
  | .bool false, _ => exact .false
  | .num [], ⟨hnumber, _⟩ => cases hnumber
  | .num (c :: s), ⟨hnumber, hchars⟩ =>
    exact .num hnumber (hchars c List.mem_cons_self)
      (fun x hx => hchars x (List.mem_cons_of_mem c hx)) hrest
  | .str s, hs =>
    have hquote : (Value.str s).indented level ++ rest = '"' :: (s ++ '"' :: rest) := by
      rw [Value.indented, quote, List.cons_append, List.append_assoc, List.singleton_append]
    rw [hquote]
    exact .str (hs rest)
  | .arr [], _ => exact .arr_nil rfl
  | .arr (v :: vs), hvs =>
    -- An empty list is told by what follows the bracket, and items do not start with its end.
    have hlist : (Value.arr (v :: vs)).indented level ++ rest =
        '[' :: (indentedItems (level + 1) (v :: vs) ++ (newline level ++ ']' :: rest)) := by
      simp [Value.indented]
    rw [hlist]
    refine .arr (fun r' hr' => ?_) ?_
    · obtain ⟨more, hmore⟩ := exists_indentedItems (level + 1) v vs
      obtain ⟨c, s, hv, hc, hclose⟩ := exists_indented (v := v) hvs.1 (level + 1)
      rw [hmore, List.append_assoc, skip_newline, hv, List.cons_append, List.cons_append,
        skip_cons_of_not_gap hc] at hr'
      exact hclose (List.cons.inj hr').1
    · exact readItems_indented (v :: vs) (List.cons_ne_nil v vs) hvs (level + 1)
        (skip_newline level _) (ends_cons (by decide))
  | .obj [], _ => exact .obj_nil rfl
  | .obj (m :: ms), hms =>
    have hobject : (Value.obj (m :: ms)).indented level ++ rest = '\x7b' ::
        (indentedMembers (level + 1) (m :: ms) ++ (newline level ++ '\x7d' :: rest)) := by
      simp [Value.indented]
    rw [hobject]
    refine .obj (fun r' hr' => ?_) ?_
    · obtain ⟨more, hmore⟩ := exists_indentedMembers (level + 1) m ms
      rw [hmore, List.append_assoc, skip_newline] at hr'
      cases hr'
    · exact readMembers_indented (m :: ms) (List.cons_ne_nil m ms) hms (level + 1)
        (skip_newline level _) (ends_cons (by decide))

/-- Items that were written are read up to the end of their list. -/
theorem readItems_indented (vs : List Value) (hne : vs ≠ []) (hvs : AllSpelled vs) (level : Nat)
    {r rest : Text} (hr : skip r = ']' :: rest) (hend : Ends r) :
    Gives (readItems (indentedItems level vs ++ r)) vs rest := by
  match vs, hvs with
  | [], _ => exact absurd rfl hne
  | [v], ⟨hv, _⟩ =>
    refine (MoreItems.done hr).gives (readValue_indented v hv level ?_ hend)
    rw [indentedItems, List.append_assoc, skip_newline, skip_indented hv]
  | v :: w :: vs, ⟨hv, hvs⟩ =>
    have hmore := readItems_indented (w :: vs) (List.cons_ne_nil w vs) hvs level hr hend
    have hcomma : skip (',' :: (indentedItems level (w :: vs) ++ r)) =
        ',' :: (indentedItems level (w :: vs) ++ r) := rfl
    refine (MoreItems.more hcomma hmore).gives
      (readValue_indented v hv level ?_ (ends_cons (by decide)))
    rw [indentedItems_cons, List.append_assoc, List.append_assoc, skip_newline, skip_indented hv]
    rfl

/-- Members that were written are read up to the end of their object. -/
theorem readMembers_indented (ms : List (Text × Value)) (hne : ms ≠ []) (hms : MembersSpelled ms)
    (level : Nat) {r rest : Text} (hr : skip r = '\x7d' :: rest) (hend : Ends r) :
    Gives (readMembers (indentedMembers level ms ++ r)) ms rest := by
  match ms, hms with
  | [], _ => exact absurd rfl hne
  | [(key, v)], ⟨hkey, hv, _⟩ =>
    have ht : skip (indentedMembers level [(key, v)] ++ r) =
        '"' :: (key ++ '"' :: ':' :: ' ' :: (v.indented level ++ r)) := by
      rw [indentedMembers_single, List.append_assoc, skip_newline]
      simp [skip_cons_of_not_gap (show isGap '"' = false by decide)]
    exact (MoreMembers.done hr).gives ht (hkey _) rfl
      (readValue_indented v hv level (skip_indented hv level r) hend)
  | (key, v) :: m :: ms, ⟨hkey, hv, hms⟩ =>
    have hmore := readMembers_indented (m :: ms) (List.cons_ne_nil m ms) hms level hr hend
    have ht : skip (indentedMembers level ((key, v) :: m :: ms) ++ r) =
        '"' :: (key ++ '"' :: ':' :: ' ' ::
          (v.indented level ++ ',' :: (indentedMembers level (m :: ms) ++ r))) := by
      rw [indentedMembers_cons, List.append_assoc, skip_newline]
      simp [skip_cons_of_not_gap (show isGap '"' = false by decide)]
    exact (MoreMembers.more rfl hmore).gives ht (hkey _) rfl
      (readValue_indented v hv level (skip_indented hv level _) (ends_cons (by decide)))

end

/-! ## What is spelled well -/

/-- The spelling of a text is read as it is. -/
theorem spelled_ofText (t : Text) : (Value.ofText t).Spelled := readString_escape t

theorem isUnsigned_of_isDigits (ht : Text.isDigits t = true) : isUnsigned t = isPlainNumber t := by
  have huncut {p : Char → Bool} (hp : ∀ d, p d = true → d.isDigit = false) :
      Text.cutAt p t = none := by
    refine Text.cutAt_eq_none_iff.mpr fun d hd => Bool.eq_false_iff.mpr fun hpd => ?_
    exact Bool.false_ne_true ((hp d hpd).symm.trans ((Text.isDigits_iff.mp ht).2 d hd))
  have hexponent : Text.cutAt (fun d => d = 'e' || d = 'E') t = none :=
    huncut fun d hd => by
      simp only [Bool.or_eq_true, decide_eq_true_eq] at hd
      rcases hd with rfl | rfl <;> decide
  have hpoint : Text.cutAt (fun d => decide (d = '.')) t = none :=
    huncut fun d hd => by
      rw [decide_eq_true_eq] at hd
      subst hd
      decide
  simp only [isUnsigned, hexponent, hpoint, Bool.true_and]

theorem isPlainNumber_toDecimal (n : Nat) : isPlainNumber (Text.toDecimal n) = true := by
  unfold isPlainNumber
  split
  · rename_i heq
    obtain rfl := Text.head?_toDecimal n (by rw [heq, List.head?_cons])
    cases heq
    rfl
  · exact Text.isDigits_toDecimal n

/-- The spelling of a number is read as it is. -/
theorem spelled_ofNat (n : Nat) : (Value.ofNat n).Spelled := by
  have hdigits := Text.isDigits_toDecimal n
  have hdigit := (Text.isDigits_iff.mp hdigits).2
  have hunsigned : isUnsigned (Text.toDecimal n) = true :=
    (isUnsigned_of_isDigits hdigits).trans (isPlainNumber_toDecimal n)
  refine ⟨?_, fun c hc => by simp [isNumberChar, hdigit c hc]⟩
  unfold isNumber
  split
  · rename_i heq
    exact absurd (hdigit '-' (heq ▸ List.mem_cons_self)) (by decide)
  · exact hunsigned

theorem allSpelled_iff : AllSpelled vs ↔ ∀ v ∈ vs, v.Spelled := by
  induction vs with
  | nil => simp [AllSpelled]
  | cons v vs ih => rw [AllSpelled, List.forall_mem_cons, ih]

/-- **What is written on lines of its own reads back.** -/
theorem read?_indented (hv : v.Spelled) (level : Nat) (hr : (skip r).isEmpty = true)
    (hend : Ends r) : Value.read? (v.indented level ++ r) = some v := by
  obtain ⟨hlt, h⟩ := readValue_indented v hv level (skip_indented hv level r) hend
  rw [Value.read?, h]
  exact if_pos hr

/-! ## Records -/

theorem mapM_eq_some_map {α β : Type} {f : α → Option β} {g : α → β} {l : List α}
    (h : ∀ a ∈ l, f a = some (g a)) : l.mapM f = some (l.map g) := by
  induction l with
  | nil => rfl
  | cons a l ih =>
    obtain ⟨ha, hl⟩ := List.forall_mem_cons.mp h
    rw [List.mapM_cons, ha, ih hl]
    rfl

/-- A list reads back if each item of it does. -/
theorem mapM_map_eq_some {α β : Type} {read : β → Option α} {write : α → β}
    (h : ∀ a, read (write a) = some a) (l : List α) : (l.map write).mapM read = some l := by
  have hid : ∀ a ∈ l, (read ∘ write) a = some (id a) := fun a _ => h a
  rw [List.mapM_map, mapM_eq_some_map hid, List.map_id]

/-- The items of a list are read as those of another if each is read as the one in its place. -/
theorem mapM_eq_some_of_zip {α β : Type} {f : α → Option β} {l : List α} {l' : List β}
    (hlen : l.length = l'.length) (h : ∀ m ∈ l.zip l', f m.1 = some m.2) : l.mapM f = some l' :=
  calc
    l.mapM f = ((l.zip l').map Prod.fst).mapM f := by rw [List.map_fst_zip (Nat.le_of_eq hlen)]
    _ = some ((l.zip l').map Prod.snd) := by
      rw [List.mapM_map]
      exact mapM_eq_some_map h
    _ = some l' := by rw [List.map_snd_zip (Nat.le_of_eq hlen.symm)]

/-- Of members with different keys one has the key of a member. -/
theorem filter_zip_eq {names : List Text} (hnames : names.Nodup) {name : Text}
    (h : (name, v) ∈ names.zip vs) : (names.zip vs).filter (·.1 = name) = [(name, v)] := by
  induction names generalizing vs with
  | nil => cases h
  | cons other names ih =>
    obtain ⟨hother, hnames⟩ := List.nodup_cons.mp hnames
    cases vs with
    | nil => cases h
    | cons w vs =>
      rw [List.zip_cons_cons] at h ⊢
      rcases List.mem_cons.mp h with heq | h
      · cases heq
        have hnone : (names.zip vs).filter (·.1 = name) = [] := by
          rw [List.filter_eq_nil_iff]
          rintro ⟨other, w⟩ hmem heq
          rw [decide_eq_true_eq] at heq
          exact hother (heq ▸ (List.of_mem_zip hmem).1)
        rw [List.filter_cons_of_pos (by simp), hnone]
      · have hne : other ≠ name := by
          rintro rfl
          exact hother (List.of_mem_zip h).1
        rw [List.filter_cons_of_neg (by simpa using hne), ih hnames h]

/-- **The fields of a record** whose names need no escapes. -/
theorem record?_zip (names : List Text) (vs : List Value) (hnames : names.Nodup)
    (hplain : ∀ name ∈ names, escape name = name) (hlen : names.length = vs.length) :
    (Value.obj (names.zip vs)).record? names = some vs := by
  refine Option.bind_eq_some_iff.mpr ⟨names.zip vs, ?_, ?_⟩
  · refine (mapM_eq_some_map (g := id) ?_).trans (congrArg some (List.map_id _))
    rintro ⟨name, v⟩ hm
    have hname := unescape?_escape name
    rw [hplain name (List.of_mem_zip hm).1] at hname
    dsimp only
    rw [hname]
    rfl
  · refine mapM_eq_some_of_zip hlen ?_
    rintro ⟨name, v⟩ hm
    dsimp only
    rw [filter_zip_eq hnames hm]

end Concordance.Json

/-!
# Finite sets in ascending order

`AscSet α` is a finite set over a linearly ordered type, kept as the strictly ascending list of its
elements. The order is part of the type, so a set has one representation, and listing a set lists
each element once, in ascending order.

Model of the ordered sets that `PostingSet` and `Universe` are.

* `mem_insert`, `mem_union`, `mem_inter`, `mem_sdiff`, `mem_ofList`: what each operation contains.
* `ext_mem`: two sets with the same elements are equal.
-/

namespace Concordance

/-- A finite set, kept as the strictly ascending list of its elements. -/
structure AscSet (α : Type) [LT α] where
  toList : List α
  ascending : toList.Pairwise (· < ·)

namespace AscSet

section Lists

variable {α : Type} [LE α] [LT α] [DecidableLT α] [DecidableEq α]

/-- Puts an element at its place in an ascending list, unless it is there already. -/
def insertInto (a : α) : List α → List α
  | [] => [a]
  | b :: r => if a < b then a :: b :: r else if a = b then b :: r else b :: insertInto a r

omit [LE α] in
@[simp] theorem mem_insertInto (a c : α) (l : List α) : c ∈ insertInto a l ↔ c = a ∨ c ∈ l := by
  induction l with
  | nil => simp [insertInto]
  | cons b r ih =>
    unfold insertInto
    split
    · simp
    · split
      · rename_i h
        simp [h]
      · simp only [List.mem_cons, ih]
        exact ⟨fun h => by rcases h with h | h | h <;> simp [h],
          fun h => by rcases h with h | h | h <;> simp [h]⟩

theorem insertInto_ascending [Std.IsLinearOrder α] [Std.LawfulOrderLT α] (a : α) {l : List α}
    (h : l.Pairwise (· < ·)) : (insertInto a l).Pairwise (· < ·) := by
  induction l with
  | nil => simp [insertInto]
  | cons b r ih =>
    obtain ⟨hb, hr⟩ := List.pairwise_cons.mp h
    unfold insertInto
    split
    · rename_i hab
      refine List.pairwise_cons.mpr ⟨fun c hc => ?_, h⟩
      rcases List.mem_cons.mp hc with rfl | hc
      · exact hab
      · exact Std.lt_trans hab (hb c hc)
    · rename_i hab
      split
      · exact h
      · rename_i hne
        refine List.pairwise_cons.mpr ⟨fun c hc => ?_, ih hr⟩
        rcases (mem_insertInto a c r).mp hc with rfl | hc
        · exact Std.lt_of_le_of_ne (Std.not_lt.mp hab) (Ne.symm hne)
        · exact hb c hc

omit [DecidableLT α] [DecidableEq α] in
/-- Strictly ascending lists with the same elements are equal. -/
theorem eq_of_ascending [Std.IsLinearOrder α] [Std.LawfulOrderLT α] {l m : List α}
    (hl : l.Pairwise (· < ·)) (hm : m.Pairwise (· < ·)) (h : ∀ a, a ∈ l ↔ a ∈ m) : l = m := by
  induction l generalizing m with
  | nil =>
    cases m with
    | nil => rfl
    | cons b m => simpa using h b
  | cons a l ih =>
    cases m with
    | nil => simpa using h a
    | cons b m =>
      obtain ⟨ha, hl'⟩ := List.pairwise_cons.mp hl
      obtain ⟨hb, hm'⟩ := List.pairwise_cons.mp hm
      have hab : a = b := by
        rcases List.mem_cons.mp ((h a).mp List.mem_cons_self) with e | e
        · exact e
        · rcases List.mem_cons.mp ((h b).mpr List.mem_cons_self) with f | f
          · exact f.symm
          · exact absurd (Std.lt_trans (ha b f) (hb a e)) Std.lt_irrefl
      subst hab
      refine congrArg _ (ih hl' hm' fun c => ⟨fun hc => ?_, fun hc => ?_⟩)
      · rcases List.mem_cons.mp ((h c).mp (List.mem_cons_of_mem _ hc)) with rfl | h'
        · exact absurd (ha _ hc) Std.lt_irrefl
        · exact h'
      · rcases List.mem_cons.mp ((h c).mpr (List.mem_cons_of_mem _ hc)) with rfl | h'
        · exact absurd (hb _ hc) Std.lt_irrefl
        · exact h'

end Lists

/-! ## The operations -/

section Basic

variable {α : Type} [LT α]

/-- The set without elements. -/
def empty : AscSet α := ⟨[], .nil⟩

instance : EmptyCollection (AscSet α) := ⟨empty⟩

instance : Inhabited (AscSet α) := ⟨∅⟩

instance : Membership α (AscSet α) := ⟨fun s a => a ∈ s.toList⟩

instance [DecidableEq α] (a : α) (s : AscSet α) : Decidable (a ∈ s) :=
  inferInstanceAs (Decidable (a ∈ s.toList))

instance [DecidableEq α] : DecidableEq (AscSet α) := fun s t =>
  decidable_of_iff (s.toList = t.toList)
    ⟨fun h => by cases s; cases t; cases h; rfl, fun h => h ▸ rfl⟩

/-- The number of elements. -/
def size (s : AscSet α) : Nat := s.toList.length

/-- Whether there is no element. -/
def isEmpty (s : AscSet α) : Bool := s.toList.isEmpty

/-- The elements that satisfy a test. -/
def filter (p : α → Bool) (s : AscSet α) : AscSet α :=
  ⟨s.toList.filter p, s.ascending.sublist List.filter_sublist⟩

/-- The elements of both sets. -/
def inter [DecidableEq α] (s t : AscSet α) : AscSet α := s.filter fun a => decide (a ∈ t)

/-- The elements of the first set that are not in the second. -/
def diff [DecidableEq α] (s t : AscSet α) : AscSet α := s.filter fun a => !decide (a ∈ t)

instance [DecidableEq α] : Inter (AscSet α) := ⟨inter⟩

instance [DecidableEq α] : SDiff (AscSet α) := ⟨diff⟩

theorem mem_def {a : α} {s : AscSet α} : a ∈ s ↔ a ∈ s.toList := Iff.rfl

@[simp] theorem mem_toList {a : α} {s : AscSet α} : a ∈ s.toList ↔ a ∈ s := Iff.rfl

@[simp] theorem toList_empty : (∅ : AscSet α).toList = [] := rfl

@[simp] theorem not_mem_empty (a : α) : a ∉ (∅ : AscSet α) := List.not_mem_nil

@[simp] theorem mem_filter {p : α → Bool} {a : α} {s : AscSet α} :
    a ∈ s.filter p ↔ a ∈ s ∧ p a = true := List.mem_filter

@[simp] theorem mem_inter [DecidableEq α] {s t : AscSet α} {a : α} : a ∈ s ∩ t ↔ a ∈ s ∧ a ∈ t := by
  change a ∈ s.filter _ ↔ _
  simp

@[simp] theorem mem_sdiff [DecidableEq α] {s t : AscSet α} {a : α} : a ∈ s \ t ↔ a ∈ s ∧ a ∉ t := by
  change a ∈ s.filter _ ↔ _
  simp

theorem isEmpty_iff {s : AscSet α} : s.isEmpty = true ↔ s = ∅ := by
  obtain ⟨l, h⟩ := s
  cases l with
  | nil => exact iff_of_true rfl rfl
  | cons a l => exact iff_of_false Bool.false_ne_true fun h => nomatch congrArg toList h

end Basic

section Ordered

variable {α : Type} [LE α] [LT α] [DecidableLT α] [DecidableEq α]
variable [Std.IsLinearOrder α] [Std.LawfulOrderLT α]

/-- Adds an element. -/
def insert (s : AscSet α) (a : α) : AscSet α :=
  ⟨insertInto a s.toList, insertInto_ascending a s.ascending⟩

/-- The set of the elements of a list, in any order and with repetitions. -/
def ofList (l : List α) : AscSet α := l.foldr (fun a s => s.insert a) ∅

/-- The elements of either set. -/
def union (s t : AscSet α) : AscSet α := s.toList.foldr (fun a u => u.insert a) t

instance : Union (AscSet α) := ⟨union⟩

@[simp] theorem mem_insert {s : AscSet α} {a b : α} : b ∈ s.insert a ↔ b = a ∨ b ∈ s :=
  mem_insertInto a b s.toList

theorem mem_foldr_insert {l : List α} {t : AscSet α} {a : α} :
    a ∈ l.foldr (fun a u => u.insert a) t ↔ a ∈ l ∨ a ∈ t := by
  induction l with
  | nil => simp
  | cons b l ih => simp [ih, or_assoc]

@[simp] theorem mem_ofList {l : List α} {a : α} : a ∈ ofList l ↔ a ∈ l := by
  simp [ofList, mem_foldr_insert]

@[simp] theorem mem_union {s t : AscSet α} {a : α} : a ∈ s ∪ t ↔ a ∈ s ∨ a ∈ t :=
  mem_foldr_insert

omit [DecidableLT α] [DecidableEq α] in
/-- Sets with the same elements are equal. -/
theorem ext_mem {s t : AscSet α} (h : ∀ a, a ∈ s ↔ a ∈ t) : s = t := by
  have e := eq_of_ascending s.ascending t.ascending h
  cases s
  cases t
  cases e
  rfl

/-- An ascending list is the listing of the set of its elements. -/
theorem ofList_toList (s : AscSet α) : ofList s.toList = s := ext_mem fun a => by simp

end Ordered

end AscSet

end Concordance

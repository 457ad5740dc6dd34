import Concordance.AscSet

/-!
# Finite maps in ascending order of their keys

`AscMap κ β` is a finite map over linearly ordered keys, kept as the list of its entries in strictly
ascending order of the keys. The order is part of the type, so a map has one representation and its
listing is its canonical form.

Model of the ordered maps that `InvertedIndex`, `Registry` and `DirLemmaSource` keep.

* `get?_insert`, `get?_erase`: what a look-up finds after each operation.
* `mem_toList_iff`: the entries are exactly what look-ups find.
* `ext_get?`: two maps with the same look-ups are equal.
* `get?_ofList_eq_some_iff`, `ofList_perm`: the map of a list in which a key has one value.
-/

namespace Concordance

/-- A finite map, kept as the list of its entries in strictly ascending order of their keys. -/
structure AscMap (κ β : Type) [LT κ] where
  toList : List (κ × β)
  ascending : toList.Pairwise (·.1 < ·.1)

namespace AscMap

section Lists

variable {κ β : Type}

/-- The value under a key in a list of entries. -/
def find [DecidableEq κ] (k : κ) : List (κ × β) → Option β
  | [] => none
  | e :: r => if k = e.1 then some e.2 else find k r

/-- Puts an entry at its place in an ascending list, in place of one with the same key. -/
def insertInto [LT κ] [DecidableLT κ] [DecidableEq κ] (k : κ) (v : β) : List (κ × β) → List (κ × β)
  | [] => [(k, v)]
  | e :: r =>
    if k < e.1 then (k, v) :: e :: r
    else if k = e.1 then (k, v) :: r
    else e :: insertInto k v r

variable [LT κ] [DecidableLT κ] [DecidableEq κ]

theorem mem_insertInto (k : κ) (v : β) (l : List (κ × β)) {e : κ × β} (h : e ∈ insertInto k v l) :
    e = (k, v) ∨ e ∈ l := by
  induction l with
  | nil => exact .inl (List.mem_singleton.mp h)
  | cons a r ih =>
    unfold insertInto at h
    split at h
    · exact List.mem_cons.mp h
    · split at h
      · rcases List.mem_cons.mp h with h | h
        · exact .inl h
        · exact .inr (List.mem_cons_of_mem _ h)
      · rcases List.mem_cons.mp h with h | h
        · exact .inr (h ▸ List.mem_cons_self)
        · exact (ih h).imp id (List.mem_cons_of_mem _)

variable [LE κ] [Std.IsLinearOrder κ] [Std.LawfulOrderLT κ]

theorem insertInto_ascending (k : κ) (v : β) {l : List (κ × β)} (h : l.Pairwise (·.1 < ·.1)) :
    (insertInto k v l).Pairwise (·.1 < ·.1) := by
  induction l with
  | nil => simp [insertInto]
  | cons a r ih =>
    obtain ⟨ha, hr⟩ := List.pairwise_cons.mp h
    unfold insertInto
    split
    · rename_i hka
      refine List.pairwise_cons.mpr ⟨fun c hc => ?_, h⟩
      rcases List.mem_cons.mp hc with rfl | hc
      · exact hka
      · exact Std.lt_trans hka (ha c hc)
    · rename_i hka
      split
      · rename_i heq
        exact List.pairwise_cons.mpr ⟨fun c hc => heq ▸ ha c hc, hr⟩
      · rename_i hne
        refine List.pairwise_cons.mpr ⟨fun c hc => ?_, ih hr⟩
        rcases mem_insertInto k v r hc with rfl | hc
        · exact Std.lt_of_le_of_ne (Std.not_lt.mp hka) (Ne.symm hne)
        · exact ha c hc

omit [DecidableLT κ] [Std.IsLinearOrder κ] in
theorem find_eq_none_of_lt {k : κ} {l : List (κ × β)} (h : ∀ e ∈ l, k < e.1) : find k l = none := by
  induction l with
  | nil => rfl
  | cons a r ih =>
    have hne : k ≠ a.1 := fun e => Std.lt_irrefl (e ▸ h a List.mem_cons_self : a.1 < a.1)
    rw [find, if_neg hne]
    exact ih fun e he => h e (List.mem_cons_of_mem _ he)

omit [Std.IsLinearOrder κ] [Std.LawfulOrderLT κ] [LE κ] in
theorem find_insertInto (k : κ) (v : β) (l : List (κ × β)) (j : κ) :
    find j (insertInto k v l) = if j = k then some v else find j l := by
  induction l with
  | nil => simp [insertInto, find]
  | cons a r ih =>
    unfold insertInto
    split
    · simp [find]
    · split
      · rename_i heq
        by_cases hj : j = k <;> simp [find, hj, ← heq]
      · rename_i hne
        by_cases hj : j = a.1
        · have hjk : a.1 ≠ k := Ne.symm hne
          simp [find, hj, hjk]
        · simp [find, hj, ih]

omit [DecidableLT κ] [Std.IsLinearOrder κ] in
theorem mem_iff_find {l : List (κ × β)} (h : l.Pairwise (·.1 < ·.1)) {k : κ} {v : β} :
    (k, v) ∈ l ↔ find k l = some v := by
  induction l with
  | nil => simp [find]
  | cons a r ih =>
    obtain ⟨ha, hr⟩ := List.pairwise_cons.mp h
    by_cases hk : k = a.1
    · have hn : (k, v) ∉ r := fun hm => Std.lt_irrefl (hk ▸ ha _ hm : a.1 < a.1)
      obtain ⟨ak, av⟩ := a
      simp only at hk
      subst hk
      simp [find, hn, eq_comm]
    · have hne : (k, v) ≠ a := fun e => hk (by rw [← e])
      simp [find, hk, hne, ih hr]

omit [DecidableLT κ] in
theorem eq_of_find {l m : List (κ × β)} (hl : l.Pairwise (·.1 < ·.1)) (hm : m.Pairwise (·.1 < ·.1))
    (h : ∀ k, find k l = find k m) : l = m := by
  induction l generalizing m with
  | nil =>
    cases m with
    | nil => rfl
    | cons b m => simpa [find] using h b.1
  | cons a l ih =>
    cases m with
    | nil => simpa [find] using h a.1
    | cons b m =>
      obtain ⟨ha, hl'⟩ := List.pairwise_cons.mp hl
      obtain ⟨hb, hm'⟩ := List.pairwise_cons.mp hm
      have h1 : (a.1, a.2) ∈ b :: m := (mem_iff_find hm).mpr (by rw [← h]; simp [find])
      have h2 : (b.1, b.2) ∈ a :: l := (mem_iff_find hl).mpr (by rw [h]; simp [find])
      have hab : a = b := by
        rcases List.mem_cons.mp h1 with e | e
        · exact e
        · rcases List.mem_cons.mp h2 with f | f
          · exact f.symm
          · exact absurd (Std.lt_trans (ha _ f) (hb _ e)) Std.lt_irrefl
      subst hab
      refine congrArg _ (ih hl' hm' fun k => ?_)
      by_cases hk : k = a.1
      · rw [hk, find_eq_none_of_lt ha, find_eq_none_of_lt hb]
      · simpa [find, hk] using h k

end Lists

/-! ## The operations -/

section Basic

variable {κ β : Type} [LT κ]

/-- The map without entries. -/
def empty : AscMap κ β := ⟨[], .nil⟩

instance : EmptyCollection (AscMap κ β) := ⟨empty⟩

instance : Inhabited (AscMap κ β) := ⟨∅⟩

instance [DecidableEq κ] [DecidableEq β] : DecidableEq (AscMap κ β) := fun m n =>
  decidable_of_iff (m.toList = n.toList)
    ⟨fun h => by cases m; cases n; cases h; rfl, fun h => h ▸ rfl⟩

/-- The number of entries. -/
def size (m : AscMap κ β) : Nat := m.toList.length

/-- Whether there is no entry. -/
def isEmpty (m : AscMap κ β) : Bool := m.toList.isEmpty

/-- The keys. -/
def keys (m : AscMap κ β) : AscSet κ := ⟨m.toList.map (·.1), List.pairwise_map.mpr m.ascending⟩

/-- The values, in ascending order of their keys. -/
def values (m : AscMap κ β) : List β := m.toList.map (·.2)

/-- The value under a key. -/
def get? [DecidableEq κ] (m : AscMap κ β) (k : κ) : Option β := find k m.toList

/-- The value under a key, or a default. -/
def getD [DecidableEq κ] (m : AscMap κ β) (k : κ) (d : β) : β := (m.get? k).getD d

/-- Whether a key has a value. -/
def contains [DecidableEq κ] (m : AscMap κ β) (k : κ) : Bool := (m.get? k).isSome

/-- The entries that satisfy a test. -/
def filter (p : κ → β → Bool) (m : AscMap κ β) : AscMap κ β :=
  ⟨m.toList.filter fun e => p e.1 e.2, m.ascending.sublist List.filter_sublist⟩

/-- Removes the entry under a key. -/
def erase [DecidableEq κ] (m : AscMap κ β) (k : κ) : AscMap κ β :=
  m.filter fun j _ => !decide (j = k)

@[simp] theorem toList_empty : (∅ : AscMap κ β).toList = [] := rfl

@[simp] theorem get?_empty [DecidableEq κ] (k : κ) : (∅ : AscMap κ β).get? k = none := rfl

@[simp] theorem mem_keys_iff {m : AscMap κ β} {k : κ} : k ∈ m.keys ↔ ∃ v, (k, v) ∈ m.toList := by
  simp [keys, AscSet.mem_def]

theorem isEmpty_iff {m : AscMap κ β} : m.isEmpty = true ↔ m = ∅ := by
  obtain ⟨l, h⟩ := m
  cases l with
  | nil => exact iff_of_true rfl rfl
  | cons a l => exact iff_of_false Bool.false_ne_true fun h => nomatch congrArg toList h

end Basic

section Ordered

variable {κ β : Type} [LT κ] [DecidableLT κ] [DecidableEq κ]
variable [LE κ] [Std.IsLinearOrder κ] [Std.LawfulOrderLT κ]

/-- Puts a value under a key, in place of an earlier one. -/
def insert (m : AscMap κ β) (k : κ) (v : β) : AscMap κ β :=
  ⟨insertInto k v m.toList, insertInto_ascending k v m.ascending⟩

/-- The map of a list of entries, the last entry of a key winning. -/
def ofList (l : List (κ × β)) : AscMap κ β := l.foldl (fun m e => m.insert e.1 e.2) ∅

omit [DecidableLT κ] [Std.IsLinearOrder κ] in
theorem mem_toList_iff {m : AscMap κ β} {k : κ} {v : β} : (k, v) ∈ m.toList ↔ m.get? k = some v :=
  mem_iff_find m.ascending

@[simp] theorem get?_insert (m : AscMap κ β) (k : κ) (v : β) (j : κ) :
    (m.insert k v).get? j = if j = k then some v else m.get? j :=
  find_insertInto k v m.toList j

omit [DecidableLT κ] [Std.IsLinearOrder κ] in
theorem get?_filter (p : κ → β → Bool) (m : AscMap κ β) (k : κ) :
    (m.filter p).get? k = (m.get? k).filter (p k) := by
  refine Option.ext fun v => ?_
  rw [Option.filter_eq_some_iff, ← mem_toList_iff, ← mem_toList_iff]
  exact List.mem_filter

omit [DecidableLT κ] [Std.IsLinearOrder κ] in
@[simp] theorem get?_erase (m : AscMap κ β) (k j : κ) :
    (m.erase k).get? j = if j = k then none else m.get? j := by
  rw [erase, get?_filter]
  by_cases h : j = k <;> cases m.get? j <;> simp [h, Option.filter]

omit [DecidableLT κ] in
/-- Maps with the same look-ups are equal. -/
theorem ext_get? {m n : AscMap κ β} (h : ∀ k, m.get? k = n.get? k) : m = n := by
  have e := eq_of_find m.ascending n.ascending h
  cases m
  cases n
  cases e
  rfl

/-- An entry of a list counts unless a later one has its key; a key without one keeps its value. -/
theorem get?_foldl_insert_cases (l : List (κ × β)) (m : AscMap κ β) (k : κ) :
    (∃ v, (k, v) ∈ l ∧ (l.foldl (fun m e => m.insert e.1 e.2) m).get? k = some v) ∨
      (∀ v, (k, v) ∉ l) ∧ (l.foldl (fun m e => m.insert e.1 e.2) m).get? k = m.get? k := by
  induction l generalizing m with
  | nil => exact .inr ⟨fun _ => List.not_mem_nil, rfl⟩
  | cons e l ih =>
    rw [List.foldl_cons]
    rcases ih (m.insert e.1 e.2) with ⟨v, hv, hget⟩ | ⟨hnone, hget⟩
    · exact .inl ⟨v, List.mem_cons_of_mem e hv, hget⟩
    · rw [get?_insert] at hget
      by_cases hk : k = e.1
      · subst hk
        exact .inl ⟨e.2, List.mem_cons_self, hget.trans (if_pos rfl)⟩
      · refine .inr ⟨fun v hv => ?_, hget.trans (if_neg hk)⟩
        rcases List.mem_cons.mp hv with rfl | hv
        · exact hk rfl
        · exact hnone v hv

/-- Where a key has one value only, the map has the entries of the list. -/
theorem get?_ofList_eq_some_iff {l : List (κ × β)}
    (h : ∀ k v w, (k, v) ∈ l → (k, w) ∈ l → v = w) {k : κ} {v : β} :
    (ofList l).get? k = some v ↔ (k, v) ∈ l := by
  rcases get?_foldl_insert_cases l ∅ k with ⟨w, hw, hget⟩ | ⟨hnone, hget⟩
  · rw [ofList, hget, Option.some.injEq]
    exact ⟨fun e => e ▸ hw, fun hv => h k w v hw hv⟩
  · rw [ofList, hget, get?_empty]
    exact iff_of_false nofun (hnone v)

/-- So its order does not matter. -/
theorem ofList_perm {l l' : List (κ × β)} (h : ∀ k v w, (k, v) ∈ l → (k, w) ∈ l → v = w)
    (hperm : l'.Perm l) : ofList l' = ofList l := by
  refine ext_get? fun k => Option.ext fun v => ?_
  rw [get?_ofList_eq_some_iff h, get?_ofList_eq_some_iff, hperm.mem_iff]
  intro k v w
  rw [hperm.mem_iff, hperm.mem_iff]
  exact h k v w

omit [DecidableLT κ] [Std.IsLinearOrder κ] in
theorem mem_keys {m : AscMap κ β} {k : κ} : k ∈ m.keys ↔ (m.get? k).isSome = true := by
  simp [mem_toList_iff, Option.isSome_iff_exists]

end Ordered

end AscMap

end Concordance

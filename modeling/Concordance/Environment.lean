import Concordance.Text.Basic

/-!
# Variables

The variables that a program is started with: names with values, in the order in which they were
first set.

A look-up by text takes a variable for the text of its name, an equals sign and its value, so that
what is looked up may reach beyond the name into the value.

* `get?_set`: what setting a variable changes.
* `lookUp?_eq_get?`: looking up what has no equals sign is looking up a name.

Out of scope: variables whose names or values are no texts.
-/

namespace Concordance

/-- Names with values, each name once. -/
structure Environment where
  entries : List (Text × Text)
  deriving DecidableEq, Repr

namespace Environment

instance : EmptyCollection Environment := ⟨⟨[]⟩⟩

/-- The value of a variable. -/
def get? (env : Environment) (name : Text) : Option Text :=
  (env.entries.find? (·.1 = name)).map (·.2)

/-- What follows a text and an equals sign in the text of a variable. -/
def lookUp? (env : Environment) (t : Text) : Option Text :=
  env.entries.findSome? fun e => Text.dropLead (t ++ ['=']) (e.1 ++ '=' :: e.2)

/-- Sets a variable; one that was set keeps its place. -/
def set (env : Environment) (name value : Text) : Environment :=
  if (env.get? name).isSome then
    ⟨env.entries.map fun e => if e.1 = name then (name, value) else e⟩
  else ⟨env.entries ++ [(name, value)]⟩

/-- The variables of a list, later values of a name winning. -/
def ofList (l : List (Text × Text)) : Environment := l.foldl (fun env e => env.set e.1 e.2) ∅

theorem find?_setIn (l : List (Text × Text)) (name value m : Text) :
    ((l.map fun e => if e.1 = name then (name, value) else e).find? (·.1 = m)).map (·.2) =
      if m = name then (l.find? (·.1 = name)).map fun _ => value
      else (l.find? (·.1 = m)).map (·.2) := by
  induction l with
  | nil => simp
  | cons e l ih =>
    simp only [List.map_cons, List.find?_cons]
    by_cases he : e.1 = name <;> by_cases hm : m = name
    · simp [he, hm]
    · simp only [he, ↓reduceIte, Ne.symm hm, decide_false, hm] at ih ⊢
      exact ih
    · simp only [he, ↓reduceIte, hm, decide_false] at ih ⊢
      exact ih
    · by_cases h : e.1 = m
      · simp [h, hm]
      · simp only [he, h, ↓reduceIte, decide_false, hm] at ih ⊢
        exact ih

/-- What setting a variable changes. -/
theorem get?_set (env : Environment) (name value m : Text) :
    (env.set name value).get? m = if m = name then some value else env.get? m := by
  unfold set
  split
  · rename_i h
    obtain ⟨v, hv⟩ := Option.isSome_iff_exists.mp h
    obtain ⟨e, he, _⟩ := Option.map_eq_some_iff.mp hv
    unfold get?
    rw [find?_setIn, he]
    rfl
  · rename_i h
    have hn : env.entries.find? (·.1 = name) = none := by
      rw [get?, Option.isSome_map, Option.not_isSome_iff_eq_none] at h
      exact h
    unfold get?
    rw [List.find?_append]
    by_cases hm : m = name
    · simp [hm, hn]
    · cases env.entries.find? (·.1 = m) <;> simp [hm, Ne.symm hm]

theorem dropLead_equals {t name : Text} (ht : '=' ∉ t) (hn : '=' ∉ name) (value : Text) :
    Text.dropLead (t ++ ['=']) (name ++ '=' :: value) = if name = t then some value else none := by
  induction t generalizing name with
  | nil => cases name <;> simp_all [Text.dropLead, Ne.symm]
  | cons c t ih =>
    simp only [List.mem_cons, not_or] at ht
    cases name with
    | nil => simp [Text.dropLead, Ne.symm ht.1]
    | cons d name =>
      simp only [List.mem_cons, not_or] at hn
      by_cases h : c = d
      · simp [Text.dropLead, h, ih ht.2 hn.2]
      · simp [Text.dropLead, h, Ne.symm h]

/-- Looking up what has no equals sign is looking up a name. -/
theorem lookUp?_eq_get? {env : Environment} (h : ∀ e ∈ env.entries, '=' ∉ e.1) {name : Text}
    (hn : '=' ∉ name) : env.lookUp? name = env.get? name := by
  obtain ⟨entries⟩ := env
  unfold lookUp? get?
  induction entries with
  | nil => rfl
  | cons e l ih =>
    simp only [List.findSome?_cons, List.find?_cons]
    rw [dropLead_equals hn (h e List.mem_cons_self)]
    by_cases he : e.1 = name
    · simp [he]
    · simp only [he, ↓reduceIte, decide_false]
      exact ih fun x hx => h x (List.mem_cons_of_mem _ hx)

end Environment

end Concordance

import Concordance.Proofs.File.Location
import Concordance.Proofs.File.Walking

/-!
# Paths under the path of a directory

A path that is put together from that of a directory and one more leads on from the directory, with
the links that are left. A slash at the end of the first path is a step to where one is, which the
whole path does not have, and it may be left out.

* `steps_join`: the steps of the whole path.
* `Leads.of_dot`, `Leads.further`: where steps lead without the last slash, and with more steps.
* `Leads.size_le`: which names can be on the way.
* `leads_names`: where the path of a directory leads.
* **`walk_below`**: where the whole path leads.
-/

namespace Concordance.FileTree

open Concordance.Path (isAbsolute join)

/-! ## The steps of the whole path -/

section Steps

variable {a b : Text}

theorem names_of_not_mem (hslash : '/' ∉ a) (hne : a ≠ []) : names a = [a] := by
  have hkept : a.isEmpty = false := List.isEmpty_eq_false_iff.mpr hne
  rw [names, Text.pieces_of_not_mem hslash, List.filter_cons_of_pos (by rw [hkept]; rfl)]
  rfl

theorem names_join (hb : isAbsolute b = false) : names (join a b) = names a ++ names b :=
  Path.filter_pieces_join rfl hb

theorem getLast?_join (hb : isAbsolute b = false) (hne : b ≠ []) :
    (join a b).getLast? = b.getLast? := by
  have hlast : ∀ c : Text, (c ++ b).getLast? = b.getLast? := fun c => by
    rw [List.getLast?_append, Option.or_of_isSome (List.getLast?_isSome.mpr hne)]
  unfold join
  rw [hb, if_neg nofun]
  split
  · rfl
  · exact hlast a
  · rw [← List.singleton_append, ← List.append_assoc]
    exact hlast _

/-- The steps of a path under another one come after the names along that one. -/
theorem steps_join (hb : isAbsolute b = false) (hne : b ≠ []) :
    steps (join a b) = names a ++ steps b := by
  rw [steps, names_join hb, getLast?_join hb hne, steps, List.append_assoc]

end Steps

/-! ## Where steps lead -/

variable {f : FileTree} {n mode : Nat} {dir place : Place} {ss more : List Text} {s : Spot}

/-- A last step to where one is may be left out. -/
theorem Leads.of_dot (h : Leads f true n dir (ss ++ [['.']]) s) : Leads f true n dir ss s := by
  generalize hall : ss ++ [['.']] = all at h
  induction h generalizing ss with
  | stop n dir => cases List.append_ne_nil_of_right_ne_nil ss (List.cons_ne_nil _ _) hall
  | stay h ih =>
    rcases List.append_eq_cons_iff.mp hall with ⟨rfl, hdot⟩ | ⟨ss, rfl, rfl⟩
    · cases hdot
      exact h
    · exact .stay (ih rfl)
  | up h ih =>
    rcases List.append_eq_cons_iff.mp hall with ⟨rfl, hdot⟩ | ⟨ss, rfl, rfl⟩
    · cases hdot
    · exact .up (ih rfl)
  | free hname | file hname | link hname =>
    rcases List.append_eq_cons_iff.mp hall with ⟨rfl, hdot⟩ | ⟨ss, rfl, hend⟩
    · cases hdot
      exact absurd rfl hname.not_dot
    · cases List.append_ne_nil_of_right_ne_nil ss (List.cons_ne_nil _ _) hend.symm
  | enter hname hnode _ ih =>
    rcases List.append_eq_cons_iff.mp hall with ⟨rfl, hdot⟩ | ⟨ss, rfl, rfl⟩
    · cases hdot
      exact absurd rfl hname.not_dot
    · exact .enter hname hnode (ih rfl)
  | jump hname hnode _ _ ih =>
    rcases List.append_eq_cons_iff.mp hall with ⟨rfl, hdot⟩ | ⟨ss, rfl, rfl⟩
    · cases hdot
      exact absurd rfl hname.not_dot
    · exact .jump hname hnode (.inl rfl) (ih (List.append_assoc ..))

/-- Steps that lead to a directory lead on from there, if so many links may still be followed. -/
theorem Leads.further (h : Leads f true n dir ss (.taken place))
    (hplace : f.node? place = some (.dir mode)) :
    ∃ m, ∀ more s, Leads f true m place more s → Leads f true n dir (ss ++ more) s := by
  generalize hs : Spot.taken place = s at h
  induction h with
  | stop n dir =>
    cases hs
    exact ⟨n, fun _ _ h => h⟩
  | stay _ ih =>
    obtain ⟨m, hm⟩ := ih hs
    exact ⟨m, fun more s h => .stay (hm more s h)⟩
  | up _ ih =>
    obtain ⟨m, hm⟩ := ih hs
    exact ⟨m, fun more s h => .up (hm more s h)⟩
  | free => cases hs
  | file _ hnode | link _ hnode =>
    cases hs
    rw [hnode] at hplace
    cases hplace
  | enter hname hnode _ ih =>
    obtain ⟨m, hm⟩ := ih hs
    exact ⟨m, fun more s h => .enter hname hnode (hm more s h)⟩
  | jump hname hnode _ _ ih =>
    obtain ⟨m, hm⟩ := ih hs
    refine ⟨m, fun more s h => .jump hname hnode (.inl rfl) ?_⟩
    exact List.append_assoc .. ▸ hm more s h

/-- Steps that lead somewhere have names that are not too long. -/
theorem Leads.size_le {follow : Bool} {name : Text} (h : Leads f follow n dir ss s)
    (hname : name ∈ ss) : (Text.toBytes name).size ≤ maxName := by
  induction h with
  | stop => cases hname
  | stay _ ih =>
    rcases List.mem_cons.mp hname with rfl | hname
    · decide
    · exact ih hname
  | up _ ih =>
    rcases List.mem_cons.mp hname with rfl | hname
    · decide
    · exact ih hname
  | free hfirst | file hfirst | link hfirst => exact List.mem_singleton.mp hname ▸ hfirst.size_le
  | enter hfirst _ _ ih =>
    rcases List.mem_cons.mp hname with rfl | hname
    · exact hfirst.size_le
    · exact ih hname
  | jump hfirst _ _ _ ih =>
    rcases List.mem_cons.mp hname with rfl | hname
    · exact hfirst.size_le
    · exact ih (List.mem_append_right _ hname)

/-- The names along the path of a directory lead to the directory. -/
theorem leads_names {a : Text} (ha : f.find? a = some (dir, .dir mode)) :
    Usable a ∧ Leads f true maxLinks (start f.here a) (names a) (.taken dir) := by
  obtain ⟨⟨s, hwalk, hplace⟩, hnode⟩ := find?_eq_some_iff.mp ha
  obtain ⟨husable, hleads⟩ := walk_eq_ok_iff.mp hwalk
  have htaken : s = .taken dir := by
    cases s with
    | taken place => exact congrArg Spot.taken hplace
    | free d nm =>
      rw [Spot.place] at hplace
      rw [← hplace, hleads.node?_free] at hnode
      cases hnode
  refine ⟨husable, ?_⟩
  rw [htaken, steps] at hleads
  split at hleads
  · exact hleads.of_dot
  · rwa [List.append_nil] at hleads

/-- **A path under that of a directory leads on from the directory**, where the steps from there
need no links. -/
theorem walk_below {a p : Text} (ha : f.find? a = some (dir, .dir mode)) (hp : Usable p)
    (hstart : start f.here p = start f.here a) (hsteps : steps p = names a ++ more)
    (h : ∀ n, Leads f true n dir more s) : f.walk true p = .ok s := by
  obtain ⟨m, hm⟩ := (leads_names ha).2.further (find?_eq_some_iff.mp ha).2
  refine walk_eq_ok_iff.mpr ⟨hp, ?_⟩
  rw [hstart, hsteps]
  exact hm more s (h m)

end Concordance.FileTree

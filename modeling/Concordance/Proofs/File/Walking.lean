import Concordance.File.Write

/-!
# Where paths lead

`Leads` says of the steps of a path where they lead, one rule for each thing that a step can meet;
`walkFrom` computes it. What a change of the tree does to a path is then an induction on the rules.

* **`walkFrom_eq_ok_iff`**: walking finds where steps lead, and nothing else.
* **`walk_eq_ok_iff`**: so does a path, if it can be followed at all.
* `Leads.mono`: what is added to a tree changes no path that leads to something.
* `Leads.fill`: a path to a free name leads to what is put there.
* `Leads.without`: a file is met at the end of a path only.
* **`ends_put_file`**: so a file at a free place changes the end of no path.
-/

namespace Concordance.FileTree

/-! ## The rules -/

/-- A name that is looked up in a directory. -/
structure IsName (name : Text) : Prop where
  not_dot : name ≠ ['.']
  not_dots : name ≠ ['.', '.']
  size_le : (Text.toBytes name).size ≤ maxName

/-- Where steps from a directory lead if so many links may be followed. A link at the end is
followed or not. -/
inductive Leads (f : FileTree) (follow : Bool) : Nat → Place → List Text → Spot → Prop where
  | stop (n : Nat) (dir : Place) : Leads f follow n dir [] (.taken dir)
  | stay {n : Nat} {dir : Place} {rest : List Text} {s : Spot} :
    Leads f follow n dir rest s → Leads f follow n dir (['.'] :: rest) s
  | up {n : Nat} {dir : Place} {rest : List Text} {s : Spot} :
    Leads f follow n dir.dropLast rest s → Leads f follow n dir (['.', '.'] :: rest) s
  | free {n : Nat} {dir : Place} {name : Text} :
    IsName name → f.node? (dir ++ [name]) = none → Leads f follow n dir [name] (.free dir name)
  | file {n mode : Nat} {dir : Place} {name : Text} {content : ByteArray} :
    IsName name → f.node? (dir ++ [name]) = some (.file mode content) →
    Leads f follow n dir [name] (.taken (dir ++ [name]))
  | enter {n mode : Nat} {dir : Place} {name : Text} {rest : List Text} {s : Spot} :
    IsName name → f.node? (dir ++ [name]) = some (.dir mode) →
    Leads f follow n (dir ++ [name]) rest s → Leads f follow n dir (name :: rest) s
  | link {n : Nat} {dir : Place} {name target : Text} :
    IsName name → f.node? (dir ++ [name]) = some (.link target) → follow = false →
    Leads f follow n dir [name] (.taken (dir ++ [name]))
  | jump {n : Nat} {dir : Place} {name target : Text} {rest : List Text} {s : Spot} :
    IsName name → f.node? (dir ++ [name]) = some (.link target) →
    (follow = true ∨ rest ≠ []) → Leads f follow n (start dir target) (steps target ++ rest) s →
    Leads f follow (n + 1) dir (name :: rest) s

/-! ## Walking -/

section Walking

variable {f : FileTree} {follow : Bool} {n : Nat} {dir : Place} {name : Text} {rest : List Text}
  {s : Spot}

/-- What follows a link from here: nothing where no more links may be followed. -/
def jumpFrom (f : FileTree) (follow : Bool) : Nat → Place → List Text → Except PathFault Spot
  | 0 => fun _ _ => .error .tooManyLinks
  | n + 1 => f.walkFrom follow n

theorem walkFrom_eq (f : FileTree) (follow : Bool) (n : Nat) :
    f.walkFrom follow n = f.walkWith follow (f.jumpFrom follow n) := by
  cases n <;> rfl

/-- One name, met on the way. -/
theorem walkFrom_name (h : IsName name) :
    f.walkFrom follow n dir (name :: rest) =
      match f.node? (dir ++ [name]) with
      | none => if rest.isEmpty then .ok (.free dir name) else .error .notFound
      | some (.dir _) => f.walkFrom follow n (dir ++ [name]) rest
      | some (.file _ _) =>
        if rest.isEmpty then .ok (.taken (dir ++ [name])) else .error .notDirectory
      | some (.link target) =>
        if rest.isEmpty && !follow then .ok (.taken (dir ++ [name]))
        else f.jumpFrom follow n (start dir target) (steps target ++ rest) := by
  simp only [walkFrom_eq]
  rw [walkWith, if_neg h.not_dot, if_neg h.not_dots]
  exact if_neg (Nat.not_lt.mpr h.size_le)

theorem leads_of_walkFrom (h : f.walkFrom follow n dir rest = .ok s) :
    Leads f follow n dir rest s := by
  -- On the number of links first, since a link starts its steps anew.
  induction n using Nat.strongRecOn generalizing dir rest with
  | _ n ihn =>
  induction rest generalizing dir with
  | nil =>
    rw [walkFrom_eq, walkWith] at h
    cases h
    exact .stop n dir
  | cons name rest ih =>
    by_cases hdot : name = ['.']
    · subst hdot
      rw [walkFrom_eq, walkWith, if_pos rfl, ← walkFrom_eq] at h
      exact .stay (ih h)
    by_cases hdots : name = ['.', '.']
    · subst hdots
      rw [walkFrom_eq, walkWith, if_neg hdot, if_pos rfl, ← walkFrom_eq] at h
      exact .up (ih h)
    by_cases hsize : (Text.toBytes name).size ≤ maxName
    case neg =>
      rw [walkFrom_eq, walkWith, if_neg hdot, if_neg hdots, if_pos (Nat.not_le.mp hsize)] at h
      cases h
    have hname : IsName name := ⟨hdot, hdots, hsize⟩
    rw [walkFrom_name hname] at h
    split at h
    case h_1 hnode =>
      split at h
      · rename_i hrest
        cases List.isEmpty_iff.mp hrest
        cases h
        exact .free hname hnode
      · cases h
    case h_2 hnode => exact .enter hname hnode (ih h)
    case h_3 hnode =>
      split at h
      · rename_i hrest
        cases List.isEmpty_iff.mp hrest
        cases h
        exact .file hname hnode
      · cases h
    case h_4 target hnode =>
      split at h
      · rename_i hend
        rw [Bool.and_eq_true, List.isEmpty_iff, Bool.not_eq_true'] at hend
        obtain ⟨rfl, hfollow⟩ := hend
        cases h
        exact .link hname hnode hfollow
      · rename_i hend
        have hgo : follow = true ∨ rest ≠ [] := by
          rcases Bool.eq_false_or_eq_true follow with hfollow | hfollow
          · exact .inl hfollow
          · exact .inr fun hrest => hend (by rw [hrest, hfollow]; rfl)
        cases n with
        | zero => cases h
        | succ n => exact .jump hname hnode hgo (ihn n (Nat.lt_succ_self n) h)

theorem walkFrom_of_leads (h : Leads f follow n dir rest s) :
    f.walkFrom follow n dir rest = .ok s := by
  induction h with
  | stop n dir => rw [walkFrom_eq, walkWith]
  | stay _ ih => rwa [walkFrom_eq, walkWith, if_pos rfl, ← walkFrom_eq]
  | up _ ih => rwa [walkFrom_eq, walkWith, if_neg (by decide), if_pos rfl, ← walkFrom_eq]
  | free hname hnode => rw [walkFrom_name hname, hnode]; rfl
  | file hname hnode => rw [walkFrom_name hname, hnode]; rfl
  | enter hname hnode _ ih => rw [walkFrom_name hname, hnode]; exact ih
  | link hname hnode hfollow => rw [walkFrom_name hname, hnode, hfollow]; rfl
  | @jump n dir name target rest s hname hnode hgo _ ih =>
    have hend : (rest.isEmpty && !follow) = false := by
      rcases hgo with rfl | hrest
      · exact Bool.and_false _
      · rw [List.isEmpty_eq_false_iff.mpr hrest, Bool.false_and]
    rw [walkFrom_name hname, hnode]
    simp only [hend]
    exact ih

/-- **Walking finds where steps lead**, and nothing else. -/
theorem walkFrom_eq_ok_iff :
    f.walkFrom follow n dir rest = .ok s ↔ Leads f follow n dir rest s :=
  ⟨leads_of_walkFrom, walkFrom_of_leads⟩

/-- A path that can be followed at all. -/
structure Usable (p : Text) : Prop where
  not_empty : p.isEmpty = false
  fits : (p.contains '\x00' || isTooLong p) = false

theorem walkAlong_eq_ok_iff {p : Text} : f.walkAlong follow p rest = .ok s ↔
    Usable p ∧ Leads f follow maxLinks (start f.here p) rest s := by
  unfold walkAlong
  split
  · rename_i hempty
    exact iff_of_false nofun fun h => Bool.false_ne_true (h.1.not_empty.symm.trans hempty)
  · rename_i hempty
    split
    · rename_i hbad
      exact iff_of_false nofun fun h => Bool.false_ne_true (h.1.fits.symm.trans hbad)
    · rename_i hbad
      have husable : Usable p := ⟨Bool.eq_false_iff.mpr hempty, Bool.eq_false_iff.mpr hbad⟩
      exact walkFrom_eq_ok_iff.trans (and_iff_right husable).symm

/-- Where a path leads. -/
theorem walk_eq_ok_iff {p : Text} : f.walk follow p = .ok s ↔
    Usable p ∧ Leads f follow maxLinks (start f.here p) (steps p) s :=
  walkAlong_eq_ok_iff

end Walking

/-! ## Paths in a tree that changes -/

/-- What is in one tree is in another. -/
def Within (f g : FileTree) : Prop := ∀ q node, f.node? q = some node → g.node? q = some node

theorem Within.refl (f : FileTree) : f.Within f := fun _ _ h => h

theorem Within.trans {f g h : FileTree} (hfg : f.Within g) (hgh : g.Within h) : f.Within h :=
  fun q node hq => hgh q node (hfg q node hq)

theorem within_put {f : FileTree} {r : Place} (hr : r ≠ []) (hfree : f.node? r = none)
    (node : Node) : f.Within (f.put r node) := by
  intro q old hq
  have hne : q ≠ r := fun e => by rw [e, hfree] at hq; cases hq
  rw [node?_put_of_ne f hr node hne, hq]

section Changes

variable {f g : FileTree} {follow follow' : Bool} {n : Nat} {dir d q : Place} {nm : Text}
  {ss more : List Text} {s : Spot}

/-- What is added to a tree changes no path but one to the free name where it is added. -/
theorem Leads.mono (h : Leads f follow n dir ss s) (hfg : f.Within g)
    (hs : ∀ d nm, s = .free d nm → g.node? (d ++ [nm]) = none) : Leads g follow n dir ss s := by
  induction h with
  | stop n dir => exact .stop n dir
  | stay _ ih => exact .stay (ih hs)
  | up _ ih => exact .up (ih hs)
  | free hname _ => exact .free hname (hs _ _ rfl)
  | file hname hnode => exact .file hname (hfg _ _ hnode)
  | enter hname hnode _ ih => exact .enter hname (hfg _ _ hnode) (ih hs)
  | link hname hnode hfollow => exact .link hname (hfg _ _ hnode) hfollow
  | jump hname hnode hgo _ ih => exact .jump hname (hfg _ _ hnode) hgo (ih hs)

/-- Nothing is at a free name. -/
theorem Leads.node?_free (h : Leads f follow n dir ss (.free d nm)) :
    f.node? (d ++ [nm]) = none := by
  generalize hs : Spot.free d nm = s at h
  induction h with
  | stop | file | link => cases hs
  | stay _ ih => exact ih hs
  | up _ ih => exact ih hs
  | free _ hnode => cases hs; exact hnode
  | enter _ _ _ ih => exact ih hs
  | jump _ _ _ _ ih => exact ih hs

/-- A name is looked up at the end of a path to a free name. -/
theorem Leads.isName_free (h : Leads f follow n dir ss (.free d nm)) : IsName nm := by
  generalize hs : Spot.free d nm = s at h
  induction h with
  | stop | file | link => cases hs
  | stay _ ih => exact ih hs
  | up _ ih => exact ih hs
  | free hname _ => cases hs; exact hname
  | enter _ _ _ ih => exact ih hs
  | jump _ _ _ _ ih => exact ih hs

/-- A path to a free name goes on with what is put there. -/
theorem Leads.fill (h : Leads f follow n dir ss (.free d nm)) (hfg : f.Within g)
    (hfollow : follow = true → follow' = true)
    (hend : ∀ m, Leads g follow' m d (nm :: more) s) : Leads g follow' n dir (ss ++ more) s := by
  generalize hs : Spot.free d nm = t at h
  induction h with
  | stop | file | link => cases hs
  | stay _ ih => exact .stay (ih hs)
  | up _ ih => exact .up (ih hs)
  | free _ _ =>
    cases hs
    exact hend _
  | enter hname hnode _ ih => exact .enter hname (hfg _ _ hnode) (ih hs)
  | @jump n dir name target rest _ hname hnode hgo _ ih =>
    have hgo' : follow' = true ∨ rest ++ more ≠ [] :=
      hgo.imp hfollow fun hrest e => hrest (List.append_eq_nil_iff.mp e).1
    have hrest := ih hs
    rw [List.append_assoc] at hrest
    exact .jump hname (hfg _ _ hnode) hgo' hrest

/-- A path to a free name leads to the file that is put there. -/
theorem Leads.fill_file {mode : Nat} {content : ByteArray}
    (h : Leads f follow n dir ss (.free d nm)) (hfg : f.Within g)
    (hfollow : follow = true → follow' = true)
    (hnode : g.node? (d ++ [nm]) = some (.file mode content)) :
    Leads g follow' n dir ss (.taken (d ++ [nm])) := by
  have hfill : Leads g follow' n dir (ss ++ []) (.taken (d ++ [nm])) :=
    h.fill hfg hfollow fun m => .file h.isName_free hnode
  rwa [List.append_nil] at hfill

/-- A file is met at the end of a path only: without it the path leads to where it led, or else to
the name of the file, which is then free. -/
theorem Leads.without {mode : Nat} {content : ByteArray} (h : Leads g follow n dir ss s)
    (hq : g.node? q = some (.file mode content)) (hf : f.node? q = none)
    (hsame : ∀ r, r ≠ q → f.node? r = g.node? r) :
    Leads f follow n dir ss s ∨
      s = .taken q ∧ ∃ d nm, d ++ [nm] = q ∧ Leads f follow n dir ss (.free d nm) := by
  induction h with
  | stop n dir => exact .inl (.stop n dir)
  | stay _ ih => exact ih.imp .stay fun ⟨hs, d, nm, e, h⟩ => ⟨hs, d, nm, e, .stay h⟩
  | up _ ih => exact ih.imp .up fun ⟨hs, d, nm, e, h⟩ => ⟨hs, d, nm, e, .up h⟩
  | @free n dir name hname hnode =>
    have hne : dir ++ [name] ≠ q := fun e => by rw [← e, hnode] at hq; cases hq
    exact .inl (.free hname (by rw [hsame _ hne, hnode]))
  | @file n m dir name c hname hnode =>
    by_cases he : dir ++ [name] = q
    · exact .inr ⟨by rw [he], dir, name, he, .free hname (by rw [he, hf])⟩
    · exact .inl (.file hname (by rw [hsame _ he, hnode]))
  | @enter n m dir name rest s hname hnode _ ih =>
    have hne : dir ++ [name] ≠ q := fun e => by rw [← e, hnode] at hq; cases hq
    have hnode' : f.node? (dir ++ [name]) = some (.dir m) := by rw [hsame _ hne, hnode]
    exact ih.imp (.enter hname hnode') fun ⟨hs, d, nm, e, h⟩ =>
      ⟨hs, d, nm, e, .enter hname hnode' h⟩
  | @link n dir name t hname hnode hfollow =>
    have hne : dir ++ [name] ≠ q := fun e => by rw [← e, hnode] at hq; cases hq
    exact .inl (.link hname (by rw [hsame _ hne, hnode]) hfollow)
  | @jump n dir name t rest s hname hnode hgo _ ih =>
    have hne : dir ++ [name] ≠ q := fun e => by rw [← e, hnode] at hq; cases hq
    have hnode' : f.node? (dir ++ [name]) = some (.link t) := by rw [hsame _ hne, hnode]
    exact ih.imp (.jump hname hnode' hgo) fun ⟨hs, d, nm, e, h⟩ =>
      ⟨hs, d, nm, e, .jump hname hnode' hgo h⟩

/-- Steps lead to the same place with a link at their end followed, if there is none. -/
theorem Leads.followed (h : Leads f false n dir ss s)
    (hs : ∀ target, f.node? s.place ≠ some (.link target)) : Leads f true n dir ss s := by
  induction h with
  | stop n dir => exact .stop n dir
  | stay _ ih => exact .stay (ih hs)
  | up _ ih => exact .up (ih hs)
  | free hname hnode => exact .free hname hnode
  | file hname hnode => exact .file hname hnode
  | enter hname hnode _ ih => exact .enter hname hnode (ih hs)
  | link _ hnode => exact absurd hnode (hs _)
  | jump hname hnode _ _ ih => exact .jump hname hnode (.inl rfl) (ih hs)

end Changes

/-! ## The ends of paths -/

section Ends

variable {f g : FileTree} {follow : Bool} {p : Text} {q r r' : Place} {mode : Nat}
  {content : ByteArray} {node : Node}

/-- A path that leads somewhere leads there in a larger tree. -/
theorem walk_mono (hfg : f.Within g) (hhere : g.here = f.here)
    (h : f.walk follow p = .ok (.taken r)) : g.walk follow p = .ok (.taken r) := by
  obtain ⟨husable, hleads⟩ := walk_eq_ok_iff.mp h
  exact walk_eq_ok_iff.mpr ⟨husable, hhere ▸ hleads.mono hfg nofun⟩

/-- The place where a path ends, whether something is there or not. -/
def Ends (f : FileTree) (follow : Bool) (p : Text) (r : Place) : Prop :=
  ∃ s, f.walk follow p = .ok s ∧ s.place = r

theorem Ends.unique (h : f.Ends follow p r) (h' : f.Ends follow p r') : r = r' := by
  obtain ⟨s, hwalk, rfl⟩ := h
  obtain ⟨s', hwalk', rfl⟩ := h'
  rw [hwalk] at hwalk'
  cases hwalk'
  rfl

theorem Ends.followed (h : f.Ends false p r)
    (hr : ∀ target, f.node? r ≠ some (.link target)) : f.Ends true p r := by
  obtain ⟨s, hwalk, rfl⟩ := h
  obtain ⟨husable, hleads⟩ := walk_eq_ok_iff.mp hwalk
  exact ⟨s, walk_eq_ok_iff.mpr ⟨husable, hleads.followed hr⟩, rfl⟩

/-- What a path finds is what is at its end. -/
theorem find?_eq_some_iff :
    f.find? p = some (r, node) ↔ f.Ends true p r ∧ f.node? r = some node := by
  unfold find? Ends
  split
  case h_1 place hwalk =>
    rw [hwalk]
    constructor
    · intro h
      obtain ⟨_, hnode, heq⟩ := Option.map_eq_some_iff.mp h
      cases heq
      exact ⟨⟨_, rfl, rfl⟩, hnode⟩
    · rintro ⟨⟨s, hs, hplace⟩, hnode⟩
      cases hs
      cases hplace
      exact Option.map_eq_some_iff.mpr ⟨node, hnode, rfl⟩
  case h_2 hfree =>
    refine iff_of_false nofun ?_
    rintro ⟨⟨s, hwalk, rfl⟩, hnode⟩
    cases s with
    | taken place => exact hfree place hwalk
    | free d nm =>
      have hnone := (walk_eq_ok_iff.mp hwalk).2.node?_free
      rw [Spot.place, hnone] at hnode
      cases hnode

/-- A path finds in a larger tree what it finds in a tree. -/
theorem find?_mono {e : Place × Node} (hfg : f.Within g) (hhere : g.here = f.here)
    (h : f.find? p = some e) : g.find? p = some e := by
  obtain ⟨hends, hnode⟩ := find?_eq_some_iff.mp h
  obtain ⟨s, hwalk, hplace⟩ := hends
  refine find?_eq_some_iff.mpr ⟨?_, hfg _ _ hnode⟩
  cases s with
  | taken r => exact ⟨_, walk_mono hfg hhere hwalk, hplace⟩
  | free d nm =>
    have hfree := (walk_eq_ok_iff.mp hwalk).2.node?_free
    rw [Spot.place] at hplace
    rw [hplace, hnode] at hfree
    cases hfree

/-- A path to a file can be followed. -/
theorem usable_of_isFile (h : f.isFile p = true) : Usable p := by
  unfold isFile at h
  cases hfind : f.find? p with
  | none => rw [hfind] at h; cases h
  | some e =>
    obtain ⟨⟨s, hwalk, -⟩, -⟩ := find?_eq_some_iff.mp hfind
    exact (walk_eq_ok_iff.mp hwalk).1

/-- A file that is put at a free place changes the end of no path. -/
theorem ends_put_file (hq : q ≠ []) (hfree : f.node? q = none) :
    (f.put q (.file mode content)).Ends follow p r ↔ f.Ends follow p r := by
  have hnode := node?_put_self f hq (.file mode content)
  have hother {r : Place} := node?_put_of_ne f (q := r) hq (.file mode content)
  have hwithin := within_put hq hfree (.file mode content)
  constructor
  · rintro ⟨s, hwalk, rfl⟩
    obtain ⟨husable, hleads⟩ := walk_eq_ok_iff.mp hwalk
    rcases hleads.without hnode hfree fun r hr => (hother hr).symm with
      hsame | ⟨rfl, d, nm, rfl, hname⟩
    · exact ⟨s, walk_eq_ok_iff.mpr ⟨husable, hsame⟩, rfl⟩
    · exact ⟨.free d nm, walk_eq_ok_iff.mpr ⟨husable, hname⟩, rfl⟩
  · rintro ⟨s, hwalk, rfl⟩
    obtain ⟨husable, hleads⟩ := walk_eq_ok_iff.mp hwalk
    by_cases hs : ∃ d nm, s = .free d nm ∧ d ++ [nm] = q
    · obtain ⟨d, nm, rfl, rfl⟩ := hs
      exact ⟨.taken (d ++ [nm]), walk_eq_ok_iff.mpr ⟨husable, hleads.fill_file hwithin id hnode⟩, rfl⟩
    · refine ⟨s, walk_eq_ok_iff.mpr ⟨husable, hleads.mono hwithin fun d nm e => ?_⟩, rfl⟩
      have hne : d ++ [nm] ≠ q := fun h => hs ⟨d, nm, e, h⟩
      subst e
      rw [hother hne, hleads.node?_free]

end Ends

end Concordance.FileTree

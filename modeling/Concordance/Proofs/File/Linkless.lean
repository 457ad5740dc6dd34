import Concordance.Proofs.File.Location
import Concordance.Proofs.File.Saving

/-!
# File trees without links

Where there are no links, a path without steps upward ends at the place that it names, whatever is
there. So the directories that are made on the way to a file are the places above it, and a tree in
which a file was written differs from the tree before at these places and at the file alone.

* `Path.placeFrom_of_mem_lineage`: a path and its parents name places one above the other.
* **`Linkless.ends_eq_placeFrom`**: where a path ends.
* **`Paves.isPrefix`**: which directories are made.
-/

namespace Concordance

/-! ## Parents of a path -/

namespace Path

variable {p q : Text} {dir : Place}

/-- The parent of a path names a place above that of the path. -/
theorem placeFrom_parent (h : parent? p = some q) : placeFrom dir q <+: placeFrom dir p := by
  have hpieces : dropVoid (parts p).dropLast <+: Text.pieces (· == '/') (splitBase p).2 :=
    (prefix_dropVoid _).trans ((List.dropLast_prefix _).trans (prefix_dropVoid _))
  have hfirst : placeFrom dir (ofParts (splitBase p).1 (dropVoid (parts p).dropLast)) <+:
      placeFrom dir p := by
    rw [placeFrom, placeFrom, FileTree.start, FileTree.start, isAbsolute_ofParts hpieces,
      trail_ofParts hpieces, filter_dropVoid, trail_eq_parts]
    exact (List.prefix_append_right_inj _).mpr ((List.dropLast_prefix _).filter _)
  unfold parent? at h
  dsimp only at h
  split at h
  case h_1 hparts =>
    split at h
    case isFalse => cases h
    case isTrue hbase =>
      -- The parent of a dot is empty, but names the same place as the dot.
      cases h
      rw [hparts, hbase] at hfirst
      exact hfirst
  case h_2 =>
    cases h
    exact hfirst

/-- A path without a parent has no names. -/
theorem parts_eq_nil (h : parent? p = none) : parts p = [] := by
  unfold parent? at h
  dsimp only at h
  split at h
  · assumption
  · cases h

theorem placeFrom_of_mem_lineage (h : q ∈ FileTree.lineage p) :
    placeFrom dir q <+: placeFrom dir p := by
  unfold FileTree.lineage at h
  generalize (parts p).length = n at h
  induction n generalizing p with
  | zero => exact List.mem_singleton.mp h ▸ List.prefix_rfl
  | succ n ih =>
    unfold FileTree.lineage.go at h
    split at h
    case h_1 parent hparent =>
      rcases List.mem_cons.mp h with rfl | h
      · exact List.prefix_rfl
      · exact (ih h).trans (placeFrom_parent hparent)
    case h_2 => exact List.mem_singleton.mp h ▸ List.prefix_rfl

/-- The directory of a path that does not name the root is at a place above that of the path. -/
theorem placeFrom_directory_isPrefix (h : placeFrom dir p ≠ []) :
    placeFrom dir (directory p) <+: placeFrom dir p := by
  rw [placeFrom_directory]
  cases hparent : parent? p with
  | some q => exact placeFrom_parent hparent
  | none =>
    -- There are no names, so the path is relative, and both are where one is.
    have hplace : placeFrom dir p = FileTree.start dir p := by
      rw [placeFrom, trail_eq_parts, parts_eq_nil hparent]
      exact List.append_nil _
    rw [hplace, FileTree.start] at h ⊢
    split at h
    case isTrue => exact absurd rfl h
    case isFalse hrelative =>
      rw [if_neg hrelative]
      exact ⟨[], (List.append_nil _).trans (List.append_nil dir)⟩

/-- From the root, a path names the place that its names lead to. -/
theorem placeFrom_nil (p : Text) : placeFrom [] p = trail p := by
  rw [placeFrom, FileTree.start, ite_self]
  rfl

theorem trail_directory_isPrefix (p : Text) : trail (directory p) <+: trail p := by
  rw [← placeFrom_nil, ← placeFrom_nil, placeFrom_directory]
  cases hparent : parent? p with
  | some q => exact placeFrom_parent hparent
  | none => exact List.nil_prefix

end Path

namespace FileTree

open Concordance.Path (placeFrom trail isVoid directory)

variable {f g : FileTree} {follow : Bool} {n : Nat} {p q : Text} {dir r : Place} {ss : List Text}
  {s : Spot} {node : Node}

/-! ## The names along a path -/

theorem mem_names_iff {name : Text} (h : isVoid name = false) :
    name ∈ names p ↔ name ∈ trail p := by
  have hempty : name.isEmpty = false := by
    cases name with
    | nil => cases h
    | cons => rfl
  simp [names, trail, h, hempty]

theorem filter_steps (p : Text) : (steps p).filter (· ≠ ['.']) = trail p := by
  have hnames : (names p).filter (· ≠ ['.']) = trail p := by
    rw [names, List.filter_filter, trail]
    refine List.filter_congr fun name _ => ?_
    cases name <;> simp [isVoid]
  rw [steps, List.filter_append, hnames]
  split
  · exact List.append_nil _
  · exact List.append_nil _

theorem dots_mem_steps_iff : ['.', '.'] ∈ steps p ↔ ['.', '.'] ∈ names p := by
  rw [steps, List.mem_append]
  refine or_iff_left ?_
  split <;> simp

/-! ## Where paths end -/

/-- There are no links in a tree. -/
def Linkless (f : FileTree) : Prop := ∀ r target, f.node? r ≠ some (.link target)

theorem Linkless.put (hf : f.Linkless) (hr : r ≠ []) (hnode : ∀ target, node ≠ .link target) :
    (f.put r node).Linkless := by
  intro q target
  rw [node?_put f hr]
  split
  · exact fun h => hnode target (Option.some.inj h)
  · exact hf q target

theorem Linkless.leads_place_eq (hf : f.Linkless) (h : Leads f follow n dir ss s)
    (hup : ['.', '.'] ∉ ss) : s.place = dir ++ ss.filter (· ≠ ['.']) := by
  induction h with
  | stop n dir => exact (List.append_nil dir).symm
  | stay _ ih => exact ih fun hmem => hup (List.mem_cons_of_mem _ hmem)
  | up => exact absurd List.mem_cons_self hup
  | free hname => rw [List.filter_cons_of_pos (by simpa using hname.not_dot)]; rfl
  | file hname => rw [List.filter_cons_of_pos (by simpa using hname.not_dot)]; rfl
  | enter hname _ _ ih =>
    rw [ih fun hmem => hup (List.mem_cons_of_mem _ hmem),
      List.filter_cons_of_pos (by simpa using hname.not_dot), List.append_assoc]
    rfl
  | link _ hnode => exact absurd hnode (hf _ _)
  | jump _ hnode => exact absurd hnode (hf _ _)

/-- **A path without steps upward ends at the place that it names**, where there are no links. -/
theorem Linkless.ends_eq_placeFrom (hf : f.Linkless) (hup : ['.', '.'] ∉ names p)
    (h : f.Ends follow p r) : r = placeFrom f.here p := by
  obtain ⟨s, hwalk, rfl⟩ := h
  have hleads := (walk_eq_ok_iff.mp hwalk).2
  rw [hf.leads_place_eq hleads fun hmem => hup (dots_mem_steps_iff.mp hmem), filter_steps,
    placeFrom]

/-! ## Directories that are made -/

theorem Paves.linkless {ps : List Text} (hfg : f.Paves g ps) (hf : f.Linkless) : g.Linkless := by
  intro r target hlink
  cases hold : f.node? r with
  | none => cases (hfg.added r _ hold hlink).1
  | some node =>
    have hnew := hfg.within r node hold
    rw [hlink] at hnew
    exact hf r target (hold.trans hnew.symm)

theorem dots_of_mem_lineage (h : q ∈ lineage (directory p)) (hup : ['.', '.'] ∉ names p) :
    ['.', '.'] ∉ names q := by
  have hvoid : isVoid ['.', '.'] = false := by decide
  rw [mem_names_iff hvoid] at hup ⊢
  have hparent : placeFrom [] q <+: placeFrom [] (directory p) := Path.placeFrom_of_mem_lineage h
  rw [Path.placeFrom_nil, Path.placeFrom_nil] at hparent
  exact fun hmem => hup ((hparent.trans (Path.trail_directory_isPrefix p)).subset hmem)

/-- **The directories that are made for a file are above it.** -/
theorem Paves.isPrefix (hfg : f.Paves g (lineage (directory p))) (hf : f.Linkless)
    (hup : ['.', '.'] ∉ names p) (hr : g.Replaceable p r) {q : Place} (hnew : f.node? q = none)
    (hthere : g.node? q = some node) : q <+: r := by
  obtain ⟨-, path, hpath, hwalk⟩ := hfg.added q node hnew hthere
  have hg := hfg.linkless hf
  have hplace : r = placeFrom g.here p := hg.ends_eq_placeFrom hup hr.1
  have hmade : q = placeFrom g.here path :=
    hg.ends_eq_placeFrom (dots_of_mem_lineage hpath hup) ⟨_, hwalk, rfl⟩
  rw [hmade, hplace]
  exact (Path.placeFrom_of_mem_lineage hpath).trans
    (Path.placeFrom_directory_isPrefix (hplace ▸ hr.ne_nil))

end FileTree

end Concordance

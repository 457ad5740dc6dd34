import Concordance.Proofs.File.Below
import Concordance.Proofs.File.Linkless

/-!
# Writing a file again

A file that was written can be written again in the same way: its directories are there, the file at
the end of its path is no obstacle, and it already has the permission bits that the new one gets. So
nothing changes, in a tree without links and whatever the system refuses, if it lets one see the
directory and set permission bits.

* `ends_put_over`: a file in place of a file or of nothing changes the end of no path.
* **`replaceFile_eq_ok_iff`**: when writing succeeds, and what comes of it.
* **`Written.replaceFile_eq`**: writing what is there already changes nothing.
* **`Linkless.written`**: what was written is there.
-/

namespace Concordance.FileTree

open Concordance.Path (directory)

variable {f g h : FileTree} {refuses : Refusals} {follow : Bool} {p : Text}
  {q r place : Place} {mode : Nat} {content : ByteArray}

/-! ## A file in place of a file -/

/-- A file that is put over a file, or over nothing, changes the end of no path. -/
theorem ends_put_over (hr : r ≠ []) (hdir : ∀ mode, g.node? r ≠ some (.dir mode))
    (hlink : ∀ target, g.node? r ≠ some (.link target)) :
    (g.put r (.file mode content)).Ends follow p q ↔ g.Ends follow p q := by
  rw [← put_drop, ends_put_file hr (node?_drop_self g hr), ends_drop hr hdir hlink]

/-- So every directory is found where it was. -/
theorem find?_put_over (hr : g.Replaceable p r) (hlink : ∀ target, g.node? r ≠ some (.link target))
    {a : Text} (ha : g.find? a = some (place, .dir mode)) (bits : Nat) (content : ByteArray) :
    (g.put r (.file bits content)).find? a = some (place, .dir mode) := by
  obtain ⟨hends, hnode⟩ := find?_eq_some_iff.mp ha
  have hne : place ≠ r := fun e => hr.2 mode (e ▸ hnode)
  refine find?_eq_some_iff.mpr ⟨(ends_put_over hr.ne_nil hr.2 hlink).mpr hends, ?_⟩
  rw [node?_put_of_ne g hr.ne_nil _ hne, hnode]

/-! ## A directory that is there -/

/-- Steps that lead to something lead to something with a link at their end not followed. -/
theorem Leads.unfollowed {n : Nat} {dir : Place} {ss : List Text}
    (h : Leads f true n dir ss (.taken place)) : ∃ q, Leads f false n dir ss (.taken q) := by
  generalize hs : Spot.taken place = s at h
  induction h with
  | stop n dir => exact ⟨dir, .stop n dir⟩
  | stay _ ih => exact (ih hs).imp fun _ => .stay
  | up _ ih => exact (ih hs).imp fun _ => .up
  | free => cases hs
  | file hname hnode => exact ⟨_, .file hname hnode⟩
  | enter hname hnode _ ih => exact (ih hs).imp fun _ => .enter hname hnode
  | link hname hnode => exact ⟨_, .link hname hnode rfl⟩
  | @jump n dir name target rest s hname hnode _ _ ih =>
    by_cases hrest : rest = []
    · subst hrest
      exact ⟨_, .link hname hnode rfl⟩
    · exact (ih hs).imp fun _ => .jump hname hnode (.inr hrest)

theorem isDir_iff : g.isDir p = true ↔ ∃ place mode, g.find? p = some (place, .dir mode) := by
  unfold isDir
  split
  case h_1 hfind => exact iff_of_true rfl ⟨_, _, hfind⟩
  case h_2 hnot => exact iff_of_false nofun fun ⟨place, mode, hfind⟩ => hnot place mode hfind

/-- The nearest of a path with its parents is the path. -/
theorem lineage_eq_cons (p : Text) : ∃ parents, lineage p = p :: parents := by
  unfold lineage
  cases (Path.parts p).length with
  | zero => exact ⟨[], rfl⟩
  | succ n =>
    unfold lineage.go
    split
    · exact ⟨_, rfl⟩
    · exact ⟨[], rfl⟩

/-- A directory that is there cannot be made. -/
theorem makeDir_of_find? (hp : g.find? p = some (place, .dir mode)) :
    g.makeDir p = .error .occupied := by
  obtain ⟨husable, hnames⟩ := leads_names hp
  obtain ⟨q, hq⟩ := hnames.unfollowed
  rw [makeDir, walkAlong_eq_ok_iff.mpr ⟨husable, hq⟩]

/-- Making a directory that is there, and that the system lets one see, changes nothing. -/
theorem makeDirsAlong_of_isDir (hp : g.isDir p = true) (hsee : refuses (.seeDir p) = false) :
    g.makeDirsAlong refuses (lineage p) = (g, .ok ()) := by
  have hsettle (e : PathFault) : g.settle refuses p e = (g, .ok ()) := by
    rw [settle, hp, hsee]
    rfl
  have htry : ∃ e, e ≠ .notFound ∧ g.tryDir refuses p false = .error e := by
    obtain ⟨place, mode, hfind⟩ := isDir_iff.mp hp
    rw [tryDir, makeDir_of_find? hfind]
    split
    · exact ⟨.refused, nofun, rfl⟩
    · exact ⟨.occupied, nofun, rfl⟩
  obtain ⟨e, hne, htry⟩ := htry
  obtain ⟨parents, hlineage⟩ := lineage_eq_cons p
  rw [hlineage, makeDirsAlong, htry]
  split
  · rfl
  · cases e with
    | notFound => exact absurd rfl hne
    | _ => exact hsettle _

/-! ## When writing succeeds -/

/-- A temporary file can be made in a directory that is there. -/
theorem makeTemp?_isSome_iff {dir : Text} : (g.makeTemp? dir).isSome = true ↔
    g.isDir dir = true ∧ isTooLong (g.tempPath dir) = false := by
  rw [isDir_iff, ← Bool.not_eq_true (isTooLong _)]
  unfold makeTemp?
  split
  case h_1 hfind =>
    split
    · rename_i hlong
      exact iff_of_false nofun fun hfits => hfits.2 hlong
    · rename_i hlong
      exact iff_of_true rfl ⟨⟨_, _, hfind⟩, hlong⟩
  case h_2 hnot => exact iff_of_false nofun fun ⟨⟨place, mode, hfind⟩, _⟩ => hnot place mode hfind

/-- A temporary file can be made beside a path, filled and moved. -/
structure Writable (refuses : Refusals) (g : FileTree) (p : Text) : Prop where
  makes : refuses .makeTemp = false
  temp : (g.makeTemp? (directory p)).isSome = true
  fills : refuses .write = false
  moves : refuses .move = false

/-- **When writing succeeds**: the directories can be made, and then a file put at the end of the
path. -/
theorem replaceFile_eq_ok_iff (hset : refuses .setMode = false) :
    f.replaceFile refuses p content = (h, .ok ()) ↔
      ∃ g r, f.makeDirsAlong refuses (lineage (directory p)) = (g, .ok ()) ∧
        Writable refuses g p ∧ g.Replaceable p r ∧
        h = g.put r (.file (g.newMode refuses p) content) := by
  unfold replaceFile
  cases hmade : f.makeDirsAlong refuses (lineage (directory p)) with
  | mk g result =>
  cases result with
  | error e =>
    refine iff_of_false nofun ?_
    rintro ⟨_, _, hmade, -⟩
    cases hmade
  | ok _ =>
    have hstopped (t : FileTree) :
        t.isStopped refuses p = (refuses .write || refuses .move) := by
      rw [isStopped, hset, Bool.and_false, Bool.false_or]
    dsimp only
    split
    case h_1 htemp =>
      refine iff_of_false nofun ?_
      rintro ⟨_, _, hmade, hw, -⟩
      cases hmade
      have hsome := hw.temp
      rw [hw.makes, if_neg nofun] at htemp
      rw [htemp] at hsome
      cases hsome
    case h_2 q t htemp =>
      split at htemp
      · cases htemp
      rename_i hmakes
      obtain ⟨hq, hfree, rfl⟩ := makeTemp?_eq_some htemp
      rw [put_put, newMode_temp hq hfree, hstopped]
      constructor
      · intro hok
        split at hok
        case h_2 => cases hok
        case h_1 moved hmoved =>
          cases hok
          split at hmoved
          · cases hmoved
          rename_i hgoes
          rw [Bool.or_eq_true, not_or, Bool.not_eq_true, Bool.not_eq_true] at hgoes
          obtain ⟨r, hr, rfl⟩ := (moveTo?_put_eq_some_iff hq hfree).mp hmoved
          exact ⟨g, r, rfl, ⟨Bool.eq_false_iff.mpr hmakes, by rw [htemp]; rfl, hgoes.1, hgoes.2⟩,
            hr, rfl⟩
      · rintro ⟨_, r, hmade, hw, hr, rfl⟩
        cases hmade
        rw [hw.fills, hw.moves, Bool.or_false, if_neg nofun,
          (moveTo?_put_eq_some_iff hq hfree).mpr ⟨r, hr, rfl⟩]

/-! ## Writing again -/

/-- What writing a file would put at the end of its path is there already. -/
structure Written (refuses : Refusals) (g : FileTree) (p : Text) (content : ByteArray) : Prop where
  writable : Writable refuses g p
  file : ∃ r, g.Replaceable p r ∧ g.node? r = some (.file (g.newMode refuses p) content)

/-- **Writing what is there already changes nothing.** -/
theorem Written.replaceFile_eq (h : Written refuses g p content) (hset : refuses .setMode = false)
    (hsee : refuses (.seeDir (directory p)) = false) :
    g.replaceFile refuses p content = (g, .ok ()) := by
  obtain ⟨r, hr, hnode⟩ := h.file
  have hdir := (makeTemp?_isSome_iff.mp h.writable.temp).1
  exact (replaceFile_eq_ok_iff hset).mpr ⟨g, r, makeDirsAlong_of_isDir hdir hsee, h.writable, hr,
    (put_self hr.ne_nil hnode).symm⟩

/-- A file that was written has the permission bits that it would get again. -/
theorem Replaced.newMode_eq {t : FileTree} (h : Replaced refuses g t p content r)
    (hlink : ∀ target, g.node? r ≠ some (.link target)) :
    t.newMode refuses p = g.newMode refuses p := by
  have hfind : t.find? p = some (r, .file (g.newMode refuses p) content) := by
    refine h.leads.resolve_right ?_
    rintro ⟨⟨target, htarget⟩, -⟩
    exact hlink target htarget
  have hmode : t.mode? p = some (g.newMode refuses p) := by rw [mode?, hfind]
  cases hsee : refuses .seeMode with
  | true =>
    rw [newMode, oldMode?, newMode, oldMode?, if_pos hsee, if_pos hsee, masked, masked, h.mask]
  | false =>
    rw [newMode, oldMode?, hsee, if_neg Bool.false_ne_true, hmode]
    rfl

/-- **What was written is there.** -/
theorem Linkless.written (hf : f.Linkless) (hset : refuses .setMode = false)
    (hok : f.replaceFile refuses p content = (h, .ok ())) : Written refuses h p content := by
  obtain ⟨g, r, hmade, hw, hr, rfl⟩ := (replaceFile_eq_ok_iff hset).mp hok
  have hpaves := f.makeDirsAlong_paves refuses (lineage (directory p))
  rw [hmade] at hpaves
  have hlink : ∀ target, g.node? r ≠ some (.link target) := hpaves.linkless hf r
  have hreplaced : Replaced refuses g _ p content r := hr.replaced
  obtain ⟨hdir, hfits⟩ := makeTemp?_isSome_iff.mp hw.temp
  obtain ⟨place, mode, hfind⟩ := isDir_iff.mp hdir
  refine ⟨⟨hw.makes, ?_, hw.fills, hw.moves⟩, r, ⟨?_, ?_⟩, ?_⟩
  · have hthere := find?_put_over hr hlink hfind (g.newMode refuses p) content
    exact makeTemp?_isSome_iff.mpr ⟨isDir_iff.mpr ⟨place, mode, hthere⟩, hfits⟩
  · exact (ends_put_over hr.ne_nil hr.2 hlink).mpr hr.1
  · intro mode hmode
    rw [hreplaced.node] at hmode
    cases hmode
  · rw [hreplaced.newMode_eq hlink, hreplaced.node]

end Concordance.FileTree

import Concordance.Proofs.File.Walking
import Concordance.Store

/-!
# What saving an index does to a file tree

`replaceFile` makes the directories of a path, fills a temporary file there and moves it to the end
of the path. `Outcome` says what can come of it, for any tree and any path and whatever the system
refuses: all of it, or nothing but the directories.

The file is put at the place where the path *ends* once its directories are made, a link there not
followed. A path such as `l/../l` goes through the link that it ends at; that link is replaced, and
then the path leads nowhere. The permission bits are looked up once the directories are made, so a
path such as `n/../f`, with no `n` at first, has those of the `f` that is there.

`Index.saveUnder` is `persist_index`.

* **`makeDirsAlong_paves`**: making directories adds directories, and changes nothing else.
* **`moveTo?_put_eq_some_iff`**: moving a file that was put at a free place leaves no trace there.
* **`replaceFile_outcome`**, **`Index.saveUnder_outcome`**: all or nothing.
-/

namespace Concordance

namespace FileTree

variable {f g h : FileTree} {refuses : Refusals} {p : Text} {ps qs : List Text}
  {q r : Place} {mode : Nat} {content : ByteArray}

/-! ## Directories on the way -/

/-- The second tree is the first with directories added to which some paths lead. -/
structure Paves (f g : FileTree) (ps : List Text) : Prop where
  here : g.here = f.here
  mask : g.mask = f.mask
  within : f.Within g
  added : ∀ r node, f.node? r = none → g.node? r = some node →
    node = .dir (f.masked 0o777) ∧ ∃ p ∈ ps, g.walk true p = .ok (.taken r)

theorem Paves.refl (f : FileTree) (ps : List Text) : f.Paves f ps :=
  ⟨rfl, rfl, .refl f, fun _ _ hf hg => by rw [hf] at hg; cases hg⟩

theorem Paves.trans (hfg : f.Paves g ps) (hgh : g.Paves h ps) : f.Paves h ps := by
  refine ⟨hgh.here.trans hfg.here, hgh.mask.trans hfg.mask, hfg.within.trans hgh.within, ?_⟩
  intro r node hf hh
  cases hg : g.node? r with
  | none =>
    obtain ⟨rfl, hpath⟩ := hgh.added r node hg hh
    exact ⟨by rw [masked, masked, hfg.mask], hpath⟩
  | some node' =>
    obtain ⟨rfl, p, hp, hwalk⟩ := hfg.added r node' hf hg
    have hsame : some node = some (.dir (f.masked 0o777)) := by
      rw [← hh, hgh.within r _ hg]
    exact ⟨Option.some.inj hsame, p, hp, walk_mono hgh.within hgh.here hwalk⟩

theorem Paves.mono (hfg : f.Paves g ps) (hsub : ps ⊆ qs) : f.Paves g qs :=
  ⟨hfg.here, hfg.mask, hfg.within, fun r node hf hg =>
    (hfg.added r node hf hg).imp id fun ⟨p, hp, hwalk⟩ => ⟨p, hsub hp, hwalk⟩⟩

/-- Making a directory adds one at the end of its path. -/
theorem makeDir_paves (h : f.makeDir p = .ok g) : f.Paves g [p] := by
  unfold makeDir at h
  split at h
  case h_2 | h_3 => cases h
  case h_1 d nm hwalk =>
    cases h
    obtain ⟨husable, hleads⟩ := walkAlong_eq_ok_iff.mp hwalk
    have hne : d ++ [nm] ≠ [] := by simp
    have hwithin := within_put hne hleads.node?_free (.dir (f.masked 0o777))
    have hdir := node?_put_self f hne (.dir (f.masked 0o777))
    refine ⟨rfl, rfl, hwithin, fun r node hf hg => ?_⟩
    rw [node?_put f hne] at hg
    split at hg
    case isFalse => rw [hf] at hg; cases hg
    case isTrue hr =>
      cases hg
      subst hr
      refine ⟨rfl, p, List.mem_singleton_self p, walk_eq_ok_iff.mpr ⟨husable, ?_⟩⟩
      refine hleads.fill hwithin (fun _ => rfl) fun m => .enter hleads.isName_free hdir ?_
      split
      · exact .stay (.stop _ _)
      · exact .stop _ _

theorem tryDir_paves {again : Bool} (h : f.tryDir refuses p again = .ok g) :
    f.Paves g (p :: ps) := by
  unfold tryDir at h
  split at h
  · cases h
  · exact (makeDir_paves h).mono (by simp)

/-- **Making directories along a path** adds directories to which the path or parents of it lead,
whether all could be made or not. -/
theorem makeDirsAlong_paves (f : FileTree) (refuses : Refusals) (ps : List Text) :
    f.Paves (f.makeDirsAlong refuses ps).1 ps := by
  induction ps generalizing f with
  | nil => exact .refl f []
  | cons p parents ih =>
    unfold makeDirsAlong
    split
    · exact .refl f _
    · split
      case h_1 htry => exact tryDir_paves htry
      case h_3 => exact .refl f _
      case h_2 =>
        have hparents := (ih f).mono (List.subset_cons_self p parents)
        cases hmade : f.makeDirsAlong refuses parents with
        | mk g result =>
          rw [hmade] at hparents
          cases result with
          | error e => exact hparents
          | ok _ =>
            dsimp only
            split
            case h_1 htry => exact hparents.trans (tryDir_paves htry)
            case h_2 => exact hparents

/-! ## The temporary file -/

/-- A temporary file is an empty one where nothing was. -/
theorem makeTemp?_eq_some {dir : Text} (hmade : g.makeTemp? dir = some (q, h)) :
    q ≠ [] ∧ g.node? q = none ∧ h = g.put q (.file (g.masked 0o666) .empty) := by
  unfold makeTemp? at hmade
  split at hmade
  case h_2 => cases hmade
  case h_1 place _ _ =>
    split at hmade
    · cases hmade
    · cases hmade
      exact ⟨by simp, g.node?_freshName place, rfl⟩

/-- A path finds no other mode where a file is put at a free place, save that of the file. -/
theorem mode?_put_file (hq : q ≠ []) (hfree : g.node? q = none) :
    ((g.put q (.file mode content)).mode? p).getD mode = (g.mode? p).getD mode := by
  have hends (r : Place) : (g.put q (.file mode content)).Ends true p r ↔ g.Ends true p r :=
    ends_put_file hq hfree
  by_cases hpath : g.Ends true p q
  · have hfound : (g.put q (.file mode content)).find? p = some (q, .file mode content) :=
      find?_eq_some_iff.mpr ⟨(hends q).mpr hpath, node?_put_self g hq _⟩
    have hnone : g.find? p = none := by
      refine Option.eq_none_iff_forall_ne_some.mpr fun ⟨r, node⟩ hsome => ?_
      obtain ⟨hr, hthere⟩ := find?_eq_some_iff.mp hsome
      rw [hr.unique hpath, hfree] at hthere
      cases hthere
    simp only [mode?, hfound, hnone, Option.getD]
  · have hsame : (g.put q (.file mode content)).find? p = g.find? p := by
      refine Option.ext fun ⟨r, node⟩ => ?_
      rw [find?_eq_some_iff, find?_eq_some_iff, hends]
      refine and_congr_right fun hr => ?_
      have hne : r ≠ q := fun e => hpath (e ▸ hr)
      rw [node?_put_of_ne g hq _ hne]
    simp only [mode?, hsame]

/-! ## Moving a file into place -/

/-- A file can be moved to the end of a path, which is a place without a directory. -/
def Replaceable (g : FileTree) (p : Text) (r : Place) : Prop :=
  g.Ends false p r ∧ ∀ mode, g.node? r ≠ some (.dir mode)

theorem Replaceable.ne_nil (hr : g.Replaceable p r) : r ≠ [] := by
  rintro rfl
  exact hr.2 _ rfl

/-- Moving a file that was put at a free place puts it at the end of the path instead. -/
theorem moveTo?_put_eq_some_iff (hq : q ≠ []) (hfree : g.node? q = none) :
    (g.put q (.file mode content)).moveTo? q p = some h ↔
      ∃ r, g.Replaceable p r ∧ h = g.put r (.file mode content) := by
  have hends (r : Place) : (g.put q (.file mode content)).Ends false p r ↔ g.Ends false p r :=
    ends_put_file hq hfree
  unfold moveTo?
  rw [node?_put_self g hq]
  cases hwalk : (g.put q (.file mode content)).walk false p with
  | error e =>
    refine iff_of_false nofun ?_
    rintro ⟨r, ⟨hr, -⟩, -⟩
    obtain ⟨s, hs, -⟩ := (hends r).mpr hr
    rw [hwalk] at hs
    cases hs
  | ok s =>
    have hs : g.Ends false p s.place := (hends s.place).mp ⟨s, hwalk, rfl⟩
    dsimp only
    split
    case h_1 mode' hdir =>
      refine iff_of_false nofun ?_
      rintro ⟨r, ⟨hr, hnot⟩, -⟩
      have hne : r ≠ q := fun e => by
        rw [hs.unique hr, e, node?_put_self g hq] at hdir
        cases hdir
      rw [hs.unique hr, node?_put_of_ne g hq _ hne] at hdir
      exact hnot mode' hdir
    case h_2 hnot =>
      rw [drop_put hq hfree]
      constructor
      · intro hmoved
        cases hmoved
        exact ⟨s.place, ⟨hs, fun mode' hdir =>
          hnot mode' (within_put hq hfree _ _ _ hdir)⟩, rfl⟩
      · rintro ⟨r, ⟨hr, -⟩, rfl⟩
        rw [hs.unique hr]

/-- A path leads to a file at its end, if it ends there without what was there. -/
theorem find?_put_file (hr : r ≠ []) (hends : (g.drop r).Ends false p r) :
    (g.put r (.file mode content)).find? p = some (r, .file mode content) := by
  have hfree := node?_drop_self g hr
  have hfollowed := hends.followed fun t ht => by rw [hfree] at ht; cases ht
  refine find?_eq_some_iff.mpr ⟨?_, node?_put_self g hr _⟩
  rw [← put_drop]
  exact (ends_put_file hr hfree).mpr hfollowed

/-- Paths end where they ended without what is at a place, if that is no directory and no link. -/
theorem ends_drop {follow : Bool} (hr : r ≠ []) (hdir : ∀ mode, g.node? r ≠ some (.dir mode))
    (hlink : ∀ target, g.node? r ≠ some (.link target)) :
    (g.drop r).Ends follow p q ↔ g.Ends follow p q := by
  -- Dropping what is there and putting a file is putting a file, and that moves no end.
  have hdropped (mode : Nat) (content : ByteArray) :
      (g.put r (.file mode content)).Ends follow p q ↔ (g.drop r).Ends follow p q := by
    rw [← put_drop, ends_put_file hr (node?_drop_self g hr)]
  cases hnode : g.node? r with
  | none => rw [← hdropped 0 .empty, ends_put_file hr hnode]
  | some node =>
    cases node with
    | dir mode => exact absurd hnode (hdir mode)
    | link target => exact absurd hnode (hlink target)
    | file mode content => rw [← hdropped mode content, put_self hr hnode]

/-- A path goes through what is at its end only if that is a link. -/
theorem Replaceable.ends_drop (hr : g.Replaceable p r)
    (hlink : ∀ target, g.node? r ≠ some (.link target)) : (g.drop r).Ends false p r :=
  (FileTree.ends_drop hr.ne_nil hr.2 hlink).mpr hr.1

/-! ## All or nothing -/

/-- A path needs what is at a place to end there. -/
def GoesThrough (g : FileTree) (p : Text) (r : Place) : Prop := ¬ (g.drop r).Ends false p r

/-- The second tree is the first with a file of some content put at the end of a path. -/
structure Replaced (refuses : Refusals) (g h : FileTree) (p : Text) (content : ByteArray)
    (r : Place) : Prop where
  replaceable : g.Replaceable p r
  node : h.node? r = some (.file (g.newMode refuses p) content)
  others : ∀ q, q ≠ r → h.node? q = g.node? q
  here : h.here = g.here
  mask : h.mask = g.mask
  /-- The path leads to the file, unless it goes through the link that was there. -/
  leads : h.find? p = some (r, .file (g.newMode refuses p) content) ∨
    (∃ target, g.node? r = some (.link target)) ∧ g.GoesThrough p r

/-- Why a file cannot be written, in a tree and in what it is with the directories made. -/
inductive Hindered (refuses : Refusals) (f g : FileTree) (p : Text) : Prop where
  | refused (a : Attempt) : refuses a = true → Hindered refuses f g p
  | noDirectory (e : PathFault) :
    f.makeDirsAlong refuses (lineage (Path.directory p)) = (g, .error e) → Hindered refuses f g p
  | noTemp : g.makeTemp? (Path.directory p) = none → Hindered refuses f g p
  | noPlace : (∀ r, ¬ g.Replaceable p r) → Hindered refuses f g p

/-- **All or nothing.** What can come of writing a file: where it fails, directories are added to
the tree; where it succeeds, so they are, and then the file is put. -/
inductive Outcome (refuses : Refusals) (f : FileTree) (p : Text) (content : ByteArray) :
    FileTree × Except Error Unit → Prop where
  | failed {g : FileTree} : f.Paves g (lineage (Path.directory p)) → Hindered refuses f g p →
    Outcome refuses f p content (g, .error .inaccessible)
  | saved {g h : FileTree} {r : Place} : f.Paves g (lineage (Path.directory p)) →
    (∀ mode, f.mode? p = some mode → g.mode? p = some mode) →
    Replaced refuses g h p content r → Outcome refuses f p content (h, .ok ())

theorem Replaceable.replaced (hr : g.Replaceable p r) :
    Replaced refuses g (g.put r (.file (g.newMode refuses p) content)) p content r where
  replaceable := hr
  node := node?_put_self g hr.ne_nil _
  others q hq := node?_put_of_ne g hr.ne_nil _ hq
  here := rfl
  mask := rfl
  leads := by
    by_cases hlink : ∃ target, g.node? r = some (.link target)
    · by_cases hends : (g.drop r).Ends false p r
      · exact .inl (find?_put_file hr.ne_nil hends)
      · exact .inr ⟨hlink, hends⟩
    · exact .inl (find?_put_file hr.ne_nil (hr.ends_drop fun t ht => hlink ⟨t, ht⟩))

/-- Directories on the way do not change the mode that a path finds. -/
theorem Paves.mode? (hfg : f.Paves g ps) (hmode : f.mode? p = some mode) :
    g.mode? p = some mode := by
  unfold FileTree.mode? at hmode
  cases hfind : f.find? p with
  | none => rw [hfind] at hmode; cases hmode
  | some e =>
    unfold FileTree.mode?
    rw [find?_mono hfg.within hfg.here hfind, ← hfind]
    exact hmode

/-- What a path leads to where directories were added was there, or is one of them. -/
theorem Paves.found {node : Node} (hfg : f.Paves g ps) (h : g.find? p = some (r, node)) :
    f.node? r = some node ∨ node = .dir (f.masked 0o777) := by
  have hg := (find?_eq_some_iff.mp h).2
  cases hf : f.node? r with
  | none => exact .inr (hfg.added r node hf hg).1
  | some node' => exact .inl ((hfg.within r node' hf).symm.trans hg)

/-- The bits of a temporary file are those that the path had before it was made. -/
theorem newMode_temp (hq : q ≠ []) (hfree : g.node? q = none) :
    (g.put q (.file (g.masked 0o666) content)).newMode refuses p = g.newMode refuses p := by
  unfold newMode oldMode?
  split
  · rfl
  · exact mode?_put_file hq hfree

theorem exists_refused (hstopped : g.isStopped refuses p = true) : ∃ a, refuses a = true := by
  unfold isStopped at hstopped
  rw [Bool.or_eq_true, Bool.or_eq_true, Bool.and_eq_true] at hstopped
  rcases hstopped with (⟨-, h⟩ | h) | h
  · exact ⟨_, h⟩
  · exact ⟨_, h⟩
  · exact ⟨_, h⟩

theorem replaceFile_outcome (f : FileTree) (refuses : Refusals) (p : Text) (content : ByteArray) :
    Outcome refuses f p content (f.replaceFile refuses p content) := by
  have hpaved := f.makeDirsAlong_paves refuses (lineage (Path.directory p))
  unfold replaceFile
  cases hmade : f.makeDirsAlong refuses (lineage (Path.directory p)) with
  | mk g result =>
  rw [hmade] at hpaved
  cases result with
  | error e => exact .failed hpaved (.noDirectory e hmade)
  | ok _ =>
    dsimp only
    split
    case h_1 htemp =>
      split at htemp
      · rename_i hrefused
        exact .failed hpaved (.refused _ hrefused)
      · exact .failed hpaved (.noTemp htemp)
    case h_2 q h htemp =>
      split at htemp
      · cases htemp
      obtain ⟨hq, hfree, rfl⟩ := makeTemp?_eq_some htemp
      -- What is moved is one file put at a free place, and dropping it gives back `g`.
      rw [put_put, drop_put hq hfree, newMode_temp hq hfree]
      split
      case h_1 moved hmoved =>
        split at hmoved
        · cases hmoved
        obtain ⟨r, hr, rfl⟩ := (moveTo?_put_eq_some_iff hq hfree).mp hmoved
        exact .saved hpaved (fun _ => hpaved.mode?) hr.replaced
      case h_2 hmoved =>
        refine .failed hpaved ?_
        split at hmoved
        · rename_i hstopped
          obtain ⟨a, ha⟩ := exists_refused hstopped
          exact .refused a ha
        · refine .noPlace fun r hr => ?_
          rw [(moveTo?_put_eq_some_iff hq hfree).mpr ⟨r, hr, rfl⟩] at hmoved
          cases hmoved

/-! ## Paths that end elsewhere -/

/-- A directory and a link to it. -/
def linked : FileTree :=
  ((⟨∅, [], 0o022⟩ : FileTree).put [['d']] (.dir 0o755)).put [['l']] (.link ['d'])

/-- A file with fewer permissions than a new one gets. -/
def guarded : FileTree := (⟨∅, [], 0o022⟩ : FileTree).put [['f']] (.file 0o640 .empty)

end FileTree

/-- **Saving an index is all or nothing**, in any tree and whatever the system refuses. -/
theorem Index.saveUnder_outcome (x : Index) (f : FileTree) (refuses : FileTree.Refusals)
    (p : Text) :
    FileTree.Outcome refuses f p (Text.toBytes x.toText) (x.saveUnder f refuses p) :=
  f.replaceFile_outcome refuses p _

/-- An index can be saved and yet not be at its path, when the link that the path goes through is
replaced; and its file can have bits of which the path knew nothing, when a directory that the path
goes through was missing. -/
theorem Index.save_elsewhere :
    ((∅ : Index).save .linked "l/../l".toList).2 = .ok () ∧
      ((∅ : Index).save .linked "l/../l".toList).1.isFile "l/../l".toList = false ∧
    ((∅ : Index).save .guarded "n/../f".toList).2 = .ok () ∧
      FileTree.guarded.mode? "n/../f".toList = none ∧ FileTree.guarded.masked 0o666 = 0o644 ∧
      ((∅ : Index).save .guarded "n/../f".toList).1.mode? "n/../f".toList = some 0o640 :=
  ⟨rfl, by decide, rfl, by decide, by decide, by decide⟩

end Concordance

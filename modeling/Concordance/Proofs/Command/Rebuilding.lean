import Concordance.Proofs.Command.Building
import Concordance.Proofs.File.Resaving
import Concordance.Proofs.Pages.Frame

/-!
# Building an index again

The command that builds an index can be run again and changes nothing more: it takes the same words,
so it writes the same index, and this is in its place already. So it is where there are no links and
the index is written outside of the directory that words are taken from: all that a second run meets
of the first is then the index and directories above it, and nothing of this is below the directory
of words. Inside of it, a directory that is made for the index could be that of a new document.

* `Linkless.sameBelow`: what is below the directory of words stays.
* `BuildOptions.write_eq_ok_iff`: when an index is written.
* **`BuildOptions.run_again`**: what a second run leaves behind is what the first did.

Out of scope: what another program does between the two runs.
-/

namespace Concordance

open FileTree (names lineage)
open Concordance.Path (placeFrom directory)

/-- A path names a place inside of the directory that another leads to. -/
def FileTree.LiesIn (f : FileTree) (root p : Text) : Prop :=
  ∃ place mode q, f.find? root = some (place, .dir mode) ∧ q ≠ [] ∧ placeFrom f.here p = place ++ q

/-- **What is below the directory of words stays** as it is when a file is written outside of it. -/
theorem FileTree.Linkless.sameBelow {f g : FileTree} {root p : Text} {place r : Place}
    {mode : Nat} (hf : f.Linkless) (hup : ['.', '.'] ∉ names p) (hout : ¬ f.LiesIn root p)
    (hroot : f.find? root = some (place, .dir mode)) (hpaves : f.Paves g (lineage (directory p)))
    (hr : g.Replaceable p r) (bits : Nat) (content : ByteArray) :
    Pages.SameBelow f (g.put r (.file bits content)) root place := by
  have hg := hpaves.linkless hf
  have hplace : r = placeFrom f.here p := hpaves.here ▸ hg.ends_eq_placeFrom hup hr.1
  have hapart (q : Place) (hq : q ≠ []) : ¬ place ++ q <+: r := by
    rintro ⟨rest, hrest⟩
    refine hout ⟨place, mode, q ++ rest, hroot, fun h => hq (List.append_eq_nil_iff.mp h).1, ?_⟩
    rw [← hplace, ← hrest, List.append_assoc]
  refine ⟨⟨mode, hroot⟩, ⟨mode, ?_⟩, fun q hq => ?_, fun _ _ => hf _ _⟩
  · exact find?_put_over hr (hg r) (find?_mono hpaves.within hpaves.here hroot) bits content
  · have hne : place ++ q ≠ r := fun h => hapart q hq (h ▸ List.prefix_rfl)
    rw [node?_put_of_ne g hr.ne_nil _ hne]
    cases hold : f.node? (place ++ q) with
    | some node => exact hpaves.within _ node hold
    | none =>
      -- A directory that was made is above the file, and so not below the directory of words.
      refine Option.eq_none_iff_forall_ne_some.mpr fun node hnew => ?_
      exact hapart q hq (hpaves.isPrefix hf hup hr hold hnew)

/-- Words are taken from a directory only. -/
theorem Builder.exists_of_ofDirectory {f : FileTree} {unseen : FileTree.Unseen} {root : Text}
    {b : Builder} (h : ofDirectory f root unseen = .ok b) :
    ∃ place mode, f.find? root = some (place, .dir mode) := by
  cases hlist : f.list? root with
  | none =>
    rw [ofDirectory_eq_error_iff.mpr (.unscanned (.missing (.inr hlist)))] at h
    cases h
  | some listing =>
    unfold FileTree.list? at hlist
    split at hlist
    case h_1 place mode hfind => exact ⟨place, mode, hfind⟩
    case h_2 => cases hlist

namespace Command.BuildOptions

variable {o : BuildOptions} {limits : Limits} {paths : DataPaths} {f h : FileTree} {stats : Stats}

/-- **When an index is written**, and which. -/
theorem write_eq_ok_iff : o.write limits paths f = (h, .ok stats) ↔
    ∃ b, Builder.ofDirectory f (o.source paths) limits.unseen = .ok b ∧
      f.replaceFile limits.refuses (o.target paths) (Text.toBytes b.index.toText) = (h, .ok ()) ∧
      b.stats = stats := by
  unfold write
  rw [gather_eq]
  cases Builder.ofDirectory f (o.source paths) limits.unseen with
  | error e =>
    constructor
    · intro hok
      cases hok
    · rintro ⟨_, hread, -⟩
      cases hread
  | ok b =>
    have hgathered (k : Error → Failure) : (Except.ok b).mapError k = .ok b := rfl
    simp only [hgathered, Builder.saveUnder, Index.saveUnder, Except.ok.injEq, exists_eq_left']
    rcases f.replaceFile limits.refuses (o.target paths) (Text.toBytes b.index.toText) with
      ⟨g, e | _⟩
    · constructor
      · intro hok
        cases hok
      · rintro ⟨hsaved, -⟩
        cases hsaved
    · constructor
      · intro hok
        cases hok
        exact ⟨rfl, rfl⟩
      · rintro ⟨hsaved, rfl⟩
        cases hsaved
        rfl

/-- Writing an index again changes nothing. -/
theorem write_again (hf : f.Linkless) (hup : ['.', '.'] ∉ names (o.target paths))
    (hout : ¬ f.LiesIn (o.source paths) (o.target paths)) (hset : limits.refuses .setMode = false)
    (hsee : limits.refuses (.seeDir (directory (o.target paths))) = false)
    (hok : o.write limits paths f = (h, .ok stats)) :
    o.write limits paths h = (h, .ok stats) := by
  obtain ⟨b, hread, hsaved, rfl⟩ := write_eq_ok_iff.mp hok
  refine write_eq_ok_iff.mpr ⟨b, ?_, (hf.written hset hsaved).replaceFile_eq hset hsee, rfl⟩
  obtain ⟨place, mode, hroot⟩ := Builder.exists_of_ofDirectory hread
  obtain ⟨g, r, hmade, -, hr, rfl⟩ := (FileTree.replaceFile_eq_ok_iff hset).mp hsaved
  have hpaves := f.makeDirsAlong_paves limits.refuses (lineage (directory (o.target paths)))
  rw [hmade] at hpaves
  rw [(hf.sameBelow hup hout hroot hpaves hr _ _).ofDirectory_eq, hread]

/-- **Running the command again changes nothing** and leaves the same behind: the files, what is
shown, and what was counted. The first run must succeed, in a tree without links, and the index lie
outside of the directory that words are taken from, by a path without steps upward. Nor do refusals
change this, if the system lets one see the directory of the index and set permission bits. -/
theorem run_again (o : BuildOptions) (paths : DataPaths) (hf : f.Linkless)
    (hup : ['.', '.'] ∉ names (o.target paths))
    (hout : ¬ f.LiesIn (o.source paths) (o.target paths)) :
    (∀ stats, (o.run paths f).outcome = .ok stats →
      o.run paths (o.run paths f).tree = o.run paths f) ∧
      ∀ limits : Limits, limits.refuses .setMode = false →
        limits.refuses (.seeDir (directory (o.target paths))) = false →
        ∀ stats, (o.runUnder limits paths f).outcome = .ok stats →
          o.runUnder limits paths (o.runUnder limits paths f).tree = o.runUnder limits paths f := by
  constructor
  · intro stats hok
    cases hwrite : o.write .none paths f with
    | mk g result =>
    cases result with
    | error e =>
      rw [run, hwrite] at hok
      cases hok
    | ok s =>
      have hagain := write_again hf hup hout rfl rfl hwrite
      have hfirst : o.run paths f = ⟨g, buildReport (o.target paths) s, [], .ok (some s)⟩ := by
        rw [run, hwrite]
      rw [hfirst]
      dsimp only
      rw [run, hagain]
  · intro limits hset hsee stats hok
    cases hwrite : o.write limits paths f with
    | mk g result =>
    cases result with
    | error e =>
      rw [runUnder, hwrite] at hok
      cases hok
    | ok s =>
      have hagain := write_again hf hup hout hset hsee hwrite
      have hfirst : (o.runUnder limits paths f).tree = g := by rw [runUnder, hwrite]
      rw [hfirst, runUnder, runUnder, hwrite, hagain]

/-- A directory with the words of one document. -/
def paged : FileTree :=
  (((⟨∅, [], 0o022⟩ : FileTree).put [['p']] (.dir 0o755)).put
    [['p'], "page1".toList] (.dir 0o755)).put
    [['p'], "page1".toList, wordFile] (.file 0o644 (Text.toBytes "cat\n".toList))

/-- What building an index of the words in a directory leaves behind. -/
def indexedTo (output : Text) (f : FileTree) : Result :=
  run ⟨some ['p'], some output⟩ ⟨[], [], []⟩ f

/-- The first run makes a directory for the index, which the second meets. -/
theorem run_again_paged :
    (indexedTo "n/idx".toList paged).outcome = .ok (some ⟨1, 0, 1⟩) ∧
      (indexedTo "n/idx".toList paged).tree.isFile "n/idx".toList = true ∧
      indexedTo "n/idx".toList (indexedTo "n/idx".toList paged).tree =
        indexedTo "n/idx".toList paged := by
  have hlinkless : paged.Linkless := by
    have hempty : (⟨∅, [], 0o022⟩ : FileTree).Linkless := by
      intro r target
      cases r <;> nofun
    unfold paged
    refine ((hempty.put ?_ ?_).put ?_ ?_).put ?_ ?_ <;> nofun
  have hup : ['.', '.'] ∉ names "n/idx".toList := by decide
  have hout : ¬ paged.LiesIn ['p'] "n/idx".toList := by
    rintro ⟨place, mode, q, hroot, -, hq⟩
    have hplace : paged.find? ['p'] = some ([['p']], .dir 0o755) := by rfl
    have hnamed : placeFrom paged.here "n/idx".toList = [['n'], "idx".toList] := by decide
    rw [hplace] at hroot
    cases hroot
    rw [hnamed] at hq
    cases hq
  have hstats : (indexedTo "n/idx".toList paged).outcome.toOption = some (some ⟨1, 0, 1⟩) := by
    decide +kernel
  have hok : (indexedTo "n/idx".toList paged).outcome = .ok (some ⟨1, 0, 1⟩) := by
    cases houtcome : (indexedTo "n/idx".toList paged).outcome with
    | error e =>
      rw [houtcome] at hstats
      cases hstats
    | ok stats =>
      rw [houtcome] at hstats
      cases hstats
      rfl
  exact ⟨hok, by decide +kernel,
    (run_again ⟨some ['p'], some _⟩ ⟨[], [], []⟩ hlinkless hup hout).1 _ hok⟩

/-- Inside of the directory of words, the directory that is made for the index is that of a new
document, which the second run counts. -/
example : (indexedTo "p/page2/idx".toList paged).outcome.toOption = some (some ⟨1, 0, 1⟩) ∧
    (indexedTo "p/page2/idx".toList
      (indexedTo "p/page2/idx".toList paged).tree).outcome.toOption = some (some ⟨2, 1, 1⟩) := by
  decide +kernel

end Command.BuildOptions

end Concordance

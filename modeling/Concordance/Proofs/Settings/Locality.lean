import Concordance.File.Write
import Concordance.Proofs.File.Location
import Concordance.Proofs.File.Walking
import Concordance.Settings.Load

/-!
# Where settings are found and where their data lies

A settings file is looked for from the working directory and then from each directory above it, and
so is its profile, each on its own. The data paths are put under the directory of the path of the
settings file, and that path is followed from the working directory. So all is in one directory
where both files are found from the working directory itself, as they are on an absolute path. Where
a file is found from a directory above it, the data is looked for elsewhere, or the two files come
from different directories.

Settings are loaded by `Config.load_from`, and paths are put under a directory by `resolve_paths`.

* `placeFrom_of_mem_entries`: data paths are under the path of a base, from any directory.
* `placeFrom_profilePath`: the path of a profile is beside that of the settings file.
* **`DataPaths.load_local`**: all is in one directory, if found from the working directory.
* `isFileFrom_of_mem_settingsFiles`: so it is found on an absolute path.
* `DataPaths.load_apart`: settings above the working directory are apart from their data.
-/

namespace Concordance

open Concordance.Path (placeFrom trail isAbsolute directory)

variable {f : FileTree} {env : Environment} {p q profile name base : Text} {dir d : Place}
  {paths : DataPaths}

/-! ## Profiles -/

theorem Path.not_mem_stemOf {c : Char} (h : c ∉ name) : c ∉ Path.stemOf name := by
  unfold Path.stemOf
  split
  · exact h
  · rename_i before _ hcut
    rw [List.mem_reverse]
    exact fun hc => h (List.mem_reverse.mp (Text.subset_of_cutAt hcut hc))
  · exact h

theorem not_mem_profile (h : profile? env = some profile) : '/' ∉ profile := by
  obtain ⟨e, hfind, rfl⟩ := Option.map_eq_some_iff.mp h
  have hall : ∀ e ∈ profiles, '/' ∉ e.1 := by decide
  exact hall e (List.mem_of_find?_eq_some hfind)

/-- A profile has a name of its own in place of the last name of the settings file. -/
theorem exists_profileName (h : (profile? env).bind (profilePath? p) = some q) :
    ∃ name last, Path.fileName? p = some last ∧ q = Path.withName p name ∧ '/' ∉ name ∧
      Path.isVoid name = false := by
  obtain ⟨profile, hprofile, hpath⟩ := Option.bind_eq_some_iff.mp h
  obtain ⟨stem, hstem, rfl⟩ := Option.map_eq_some_iff.mp hpath
  obtain ⟨last, hlast, rfl⟩ := Option.map_eq_some_iff.mp hstem
  have hslash := Path.not_mem_stemOf (Path.not_mem_fileName hlast)
  refine ⟨_, last, hlast, rfl, ?_, ?_⟩
  · simp [hslash, not_mem_profile hprofile]
  · refine Path.isVoid_of_length ?_
    have hsuffix : ".toml".toList.length = 5 := rfl
    simp only [List.length_append, List.length_cons, hsuffix]
    omega

/-- The path of a profile is beside that of the settings file. -/
theorem placeFrom_profilePath (h : (profile? env).bind (profilePath? p) = some q) :
    ∃ name, placeFrom dir q = placeFrom dir (directory p) ++ [name] := by
  obtain ⟨name, -, -, rfl, hslash, hvoid⟩ := exists_profileName h
  exact ⟨name, Path.placeFrom_withName hslash hvoid⟩

/-- It is absolute if that of the settings file is. -/
theorem isAbsolute_profilePath (h : (profile? env).bind (profilePath? p) = some q) :
    isAbsolute q = isAbsolute p := by
  obtain ⟨name, last, hlast, rfl, hslash, -⟩ := exists_profileName h
  rw [Path.withName, Path.isAbsolute_join (Path.isAbsolute_of_not_mem hslash),
    Path.isAbsolute_parent hlast]

/-! ## Data -/

/-- The paths, each with the setting that it is made of. -/
def DataPaths.entries (paths : DataPaths) (s : Settings) : List (Text × Text) :=
  [(paths.lemmaDir, s.lemmaDir), (paths.indexFile, s.indexFile),
    (paths.registryFile, s.registryFile)]

/-- A setting that stands for a relative path leads to a place under the base. -/
theorem placeFrom_of_mem_entries {s : Settings} {e : Text × Text}
    (he : e ∈ (s.resolve env base).entries s) (hrel : isAbsolute (expandPath env e.2) = false) :
    placeFrom dir e.1 = placeFrom dir base ++ trail (expandPath env e.2) := by
  have hpath : e.1 = resolvePath env base e.2 := by
    simp only [DataPaths.entries, Settings.resolve, List.mem_cons, List.not_mem_nil, or_false] at he
    rcases he with rfl | rfl | rfl
    · rfl
    · rfl
    · rfl
  rw [hpath, resolvePath, Path.placeFrom_join hrel]

/-! ## Looking up -/

/-- What is found from the working directory is not looked for above it. -/
theorem FileTree.settingsDir?_of_isFileFrom (h : f.isFileFrom f.here q) :
    f.settingsDir? q = some f.here := by
  unfold settingsDir?
  split
  · exact if_pos (Bool.and_eq_true_iff.mp h).1
  · cases hn : f.here.length with
    | zero =>
      rw [List.length_eq_zero_iff.mp hn] at h ⊢
      rw [lookUp, if_pos h]
    | succ n =>
      have htake : f.here.take (n + 1) = f.here := hn ▸ List.take_length
      rw [lookUp, htake]
      exact if_pos h

/-- An absolute path is followed from the root, from wherever it is looked for. -/
theorem FileTree.isFileFrom_of_isAbsolute (hq : isAbsolute q = true) :
    f.isFileFrom f.here q ∨ f.settingsDir? q = none := by
  rw [settingsDir?, if_pos hq]
  cases hfile : f.isFile q with
  | false => exact .inr rfl
  | true =>
    have habsolute : f.absolute q = q := if_pos hq
    have hfits := (usable_of_isFile hfile).fits
    rw [Bool.or_eq_false_iff] at hfits
    refine .inl (Bool.and_eq_true_iff.mpr ⟨hfile, ?_⟩)
    change (!isTooLong (f.absolute q)) = true
    rw [habsolute, hfits.2]
    rfl

/-- The paths of a settings file and of its profile. -/
def settingsFiles (env : Environment) (p : Text) : List Text :=
  p :: ((profile? env).bind (profilePath? p)).toList

/-- What an absolute path leads to is found from the working directory. -/
theorem isFileFrom_of_mem_settingsFiles (hp : isAbsolute p = true) (hq : q ∈ settingsFiles env p) :
    f.isFileFrom f.here q ∨ f.settingsDir? q = none := by
  refine f.isFileFrom_of_isAbsolute ?_
  rcases List.mem_cons.mp hq with rfl | hq
  · exact hp
  · rw [isAbsolute_profilePath (Option.mem_toList.mp hq), hp]

/-! ## Loading -/

/-- A settings file that is missing or empty is an empty layer. -/
theorem Settings.ofFile_eq_empty (h : f.settingsFile? p = none ∨ f.settingsFile? p = some .empty) :
    Settings.ofFile f p = .ok (.table []) := by
  unfold Settings.ofFile
  rcases h with h | h
  · rw [h]
  · rw [h]
    rfl

/-- Where nothing is configured, the data is where the standard settings say. -/
theorem DataPaths.load_standard
    (h : ∀ q ∈ settingsFiles ∅ p, f.settingsFile? q = none ∨ f.settingsFile? q = some .empty) :
    DataPaths.load f ∅ p = .ok (.under ∅ (directory p)) := by
  have hbase := Settings.ofFile_eq_empty (h p List.mem_cons_self)
  have hlayers : Configuration.layers f ∅ p =
      .ok [Settings.standard.toValue, .table [], .table [], .table []] := by
    unfold Configuration.layers
    rw [hbase]
    cases hq : (profile? ∅).bind (profilePath? p) with
    | none => rfl
    | some q =>
      have hprofile := Settings.ofFile_eq_empty (h q (List.mem_cons_of_mem p (Option.mem_toList.mpr hq)))
      dsimp only
      rw [hprofile]
      rfl
  unfold DataPaths.load Configuration.load
  rw [hlayers]
  rfl

theorem DataPaths.load_eq_ok_iff : DataPaths.load f env p = .ok paths ↔
    ∃ c, Configuration.load f env p = .ok c ∧ c.settings.resolve env (directory p) = paths := by
  unfold DataPaths.load
  cases Configuration.load f env p with
  | error e => exact iff_of_false nofun nofun
  | ok c =>
    constructor
    · intro h
      cases h
      exact ⟨c, rfl, rfl⟩
    · rintro ⟨_, hc, rfl⟩
      cases hc
      rfl

/-- Settings, their profile and their data are all in one directory, that of the path of the settings
file from a place. -/
structure Configuration.LiesIn (c : Configuration) (f : FileTree) (env : Environment) (p : Text)
    (paths : DataPaths) (dir : Place) : Prop where
  settings : ∀ name, Path.fileName? p = some name →
    placeFrom dir p = placeFrom dir (directory p) ++ [name]
  data : ∀ e ∈ paths.entries c.settings, isAbsolute (expandPath env e.2) = false →
    placeFrom f.here e.1 = placeFrom dir (directory p) ++ trail (expandPath env e.2)
  profile : ∀ q content, (profile? env).bind (profilePath? p) = some q →
    f.settingsFile? q = some content →
      (f.from dir).bytes? q = some content ∧
        ∃ name, placeFrom dir q = placeFrom dir (directory p) ++ [name]

/-- **Settings and their data are in one directory**, where the settings file and its profile are
found from the working directory if they are found at all. -/
theorem DataPaths.load_local (hload : DataPaths.load f env p = .ok paths)
    (hdir : f.settingsDir? p = some dir)
    (hnear : ∀ q ∈ settingsFiles env p, f.isFileFrom f.here q ∨ f.settingsDir? q = none) :
    ∃ c, Configuration.load f env p = .ok c ∧ c.LiesIn f env p paths dir := by
  obtain ⟨c, hc, rfl⟩ := DataPaths.load_eq_ok_iff.mp hload
  -- Both look-ups end where the data paths are followed from.
  have hhere : ∀ q ∈ settingsFiles env p, ∀ d, f.settingsDir? q = some d → d = f.here := by
    intro q hq d hd
    rcases hnear q hq with hfile | hnone
    · rw [FileTree.settingsDir?_of_isFileFrom hfile] at hd
      exact (Option.some.inj hd).symm
    · rw [hnone] at hd
      cases hd
  obtain rfl := hhere p List.mem_cons_self dir hdir
  refine ⟨c, hc, fun _ => Path.placeFrom_of_fileName, fun _ => placeFrom_of_mem_entries, ?_⟩
  intro q content hq hread
  obtain ⟨d, hd, hbytes⟩ := Option.bind_eq_some_iff.mp hread
  obtain rfl := hhere q (List.mem_cons_of_mem p (Option.mem_toList.mpr hq)) d hd
  exact ⟨hbytes, placeFrom_profilePath hq⟩

/-- Settings with a profile, and two directories, the first with settings and no profile. All the
files are empty, and the working directory may be any. -/
def nested (here : Place) : FileTree :=
  let bare : FileTree := ⟨∅, here, 0o022⟩
  let dirs := (bare.put [['a']] (.dir 0o755)).put [['b']] (.dir 0o755)
  ((dirs.put [['a'], "s.toml".toList] (.file 0o644 .empty)).put
    ["s.toml".toList] (.file 0o644 .empty)).put ["s.dev.toml".toList] (.file 0o644 .empty)

/-- The settings with a profile, from outside the directories. -/
theorem DataPaths.load_local_nested :
    ∃ c, Configuration.load (nested []) ∅ "s.toml".toList = .ok c ∧
      c.LiesIn (nested []) ∅ "s.toml".toList (.under ∅ (directory "s.toml".toList)) [] :=
  DataPaths.load_local (DataPaths.load_standard (by decide +kernel)) (by decide +kernel)
    (by decide +kernel)

/-- Settings that are found above the working directory are not where their data is looked for, and
a profile can be found in another directory than the settings. -/
theorem DataPaths.load_apart :
    (DataPaths.load (nested [['b']]) ∅ "a/s.toml".toList =
        .ok (.under ∅ (directory "a/s.toml".toList)) ∧
      (nested [['b']]).settingsDir? "a/s.toml".toList = some [] ∧
      isAbsolute (expandPath ∅ Settings.standard.indexFile) = false ∧
      ¬ placeFrom [] (directory "a/s.toml".toList) <+:
        placeFrom [['b']] (DataPaths.under ∅ (directory "a/s.toml".toList)).indexFile) ∧
    DataPaths.load (nested [['a']]) ∅ "s.toml".toList =
        .ok (.under ∅ (directory "s.toml".toList)) ∧
      (nested [['a']]).settingsDir? "s.toml".toList = some [['a']] ∧
      (profile? ∅).bind (profilePath? "s.toml".toList) = some "s.dev.toml".toList ∧
      (nested [['a']]).settingsFile? "s.dev.toml".toList = some .empty ∧
      ((nested [['a']]).from [['a']]).bytes? "s.dev.toml".toList = none := by
  have hrel : isAbsolute (expandPath ∅ Settings.standard.indexFile) = false := by cbv
  have hpath : (DataPaths.under ∅ (directory "a/s.toml".toList)).indexFile =
      Path.join (directory "a/s.toml".toList) (expandPath ∅ Settings.standard.indexFile) := rfl
  have houter : placeFrom [] (directory "a/s.toml".toList) = [['a']] := by decide
  have hinner : placeFrom [['b']] (directory "a/s.toml".toList) = [['b'], ['a']] := by decide
  refine ⟨⟨DataPaths.load_standard (by decide +kernel), by decide +kernel, hrel, ?_⟩,
    DataPaths.load_standard (by decide +kernel), by decide +kernel, by decide, by decide +kernel,
    by decide +kernel⟩
  rw [hpath, Path.placeFrom_join hrel, houter, hinner]
  intro hstart
  exact absurd (List.cons_prefix_cons.mp hstart).1 (by decide)

end Concordance

import Concordance.File.Tree
import Concordance.Settings.Expand
import Concordance.Settings.Layers
import Concordance.Toml.Read

/-!
# Loading settings

The settings of a file are layered over the standard ones, those of its profile over them, and those
of the variables over all. The profile is a file beside the settings file, and a variable selects
it. A file that does not exist is an empty layer. A relative path is looked up in the working
directory and then in each directory above it, the file and its profile each on their own; data
paths nevertheless lie under the directory that the path of the settings file names.

Model of `Config` (`load`, `load_from`, `get`, `settings`), `profile_file` and `resolve_paths`.

Out of scope: the text of an error in a settings file; only its kind is kept.
-/

namespace Concordance

/-! ## Files -/

/-- The tree with another working directory. -/
def FileTree.from (f : FileTree) (dir : Place) : FileTree := { f with here := dir }

/-- Whether a path leads from a directory to a file. The path from the root may not be too long. -/
def FileTree.isFileFrom (f : FileTree) (dir : Place) (p : Text) : Bool :=
  (f.from dir).isFile p && !isTooLong ((f.from dir).absolute p)

/-- The nearest directory from which a path leads to a file, among the working directory and so many
above it. -/
def FileTree.lookUp (f : FileTree) (p : Text) : (depth : Nat) → Option Place
  | 0 => if f.isFileFrom [] p then some [] else none
  | n + 1 =>
    let dir := f.here.take (n + 1)
    if f.isFileFrom dir p then some dir else f.lookUp p n

/-- The directory from which the path of a settings file leads to a file, if it leads to one. -/
def FileTree.settingsDir? (f : FileTree) (p : Text) : Option Place :=
  if Path.isAbsolute p then if f.isFile p then some f.here else none
  else f.lookUp p f.here.length

/-- The content of the settings file that a path means, if there is one. -/
def FileTree.settingsFile? (f : FileTree) (p : Text) : Option ByteArray :=
  (f.settingsDir? p).bind fun dir => (f.from dir).bytes? p

/-- The layer of a settings file. -/
def Settings.ofFile (f : FileTree) (p : Text) : Except SettingsFault Settings.Value :=
  match f.settingsFile? p with
  | none => .ok (.table [])
  | some content =>
    match (Text.ofBytes? content).bind Toml.read? with
    | some v => .ok v
    | none => .error .malformedFile

/-! ## Profiles -/

/-- The variable that selects a profile. -/
def profileVariable : Text := "RUST_ENV".toList

/-- The names of profiles, each with the names that select it. -/
def profiles : List (Text × List Text) :=
  [("dev".toList, ["dev".toList, "development".toList]),
    ("prod".toList, ["prod".toList, "production".toList]),
    ("test".toList, ["test".toList, "testing".toList])]

/-- The profile that the variables select; development if they do not mention any. -/
def profile? (env : Environment) : Option Text :=
  let selected := (env.get? profileVariable).getD "dev".toList
  (profiles.find? fun e => selected ∈ e.2).map (·.1)

/-- The path of a profile beside a settings file (`profile_file`). -/
def profilePath? (p profile : Text) : Option Text :=
  (Path.stem? p).map fun stem => Path.withName p (stem ++ '.' :: (profile ++ ".toml".toList))

/-! ## Loading -/

/-- Settings with all that is configured beside them (`Config`). -/
structure Configuration where
  value : Settings.Value
  settings : Settings

namespace Configuration

/-- The settings file where none is named (`CONFIG_FILE`). -/
def standardPath : Text := "lexidx.toml".toList

/-- The layers of a settings file, its profile and the variables over the standard settings. -/
def layers (f : FileTree) (env : Environment) (p : Text) :
    Except SettingsFault (List Settings.Value) := do
  let base ← Settings.ofFile f p
  let profile ← match (profile? env).bind (profilePath? p) with
    | some q => Settings.ofFile f q
    | none => .ok (.table [])
  return [Settings.standard.toValue, base, profile, Settings.ofVariables env]

/-- Loads settings (`load_from`). None of them may be blank. -/
def load (f : FileTree) (env : Environment) (p : Text) : Except Error Configuration := do
  let value ← (Settings.layered <$> layers f env p).mapError .settings
  let settings ← (Settings.ofValue value).mapError .settings
  settings.validate
  return ⟨value, settings⟩

/-- The text under a key, whose parts have dots between them. -/
def get (c : Configuration) (key : Text) : Except SettingsFault Text :=
  match c.value.at? (Text.pieces (· == '.') key) with
  | some (.text t) => .ok t
  | some _ => .error .wrongType
  | none => .error .missing

end Configuration

/-- The data paths that are configured under a settings file, relative to its directory
(`resolve_paths`). -/
def DataPaths.load (f : FileTree) (env : Environment) (p : Text) : Except Error DataPaths := do
  return (← Configuration.load f env p).settings.resolve env (Path.directory p)

end Concordance

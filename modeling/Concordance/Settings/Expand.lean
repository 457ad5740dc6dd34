import Concordance.Environment
import Concordance.File.Path
import Concordance.Settings.Basic
import Concordance.Text.Alphanumeric

/-!
# From settings to paths

A configured path may use variables: `$NAME`, the same with braces around the name, and between
braces a default after `:-`; two dollars stand for one. What is between braces may reach beyond an
equals sign into a value. If a variable without a default is not set, the path is taken as written.
A leading `~` then stands for the home directory. What is relative after this lies under a base
directory.

Model of `expand_path`, `resolve_with_base`, `Settings.resolve`, `IndexPaths` and
`IndexPaths.under`.

Out of scope: a home directory that the system knows without a variable.
-/

namespace Concordance

open Text (isWordChar)

theorem Text.length_cutAt {p : Char → Bool} {t a b : Text} (h : Text.cutAt p t = some (a, b)) :
    b.length < t.length := by
  induction t generalizing a with
  | nil => simp [Text.cutAt] at h
  | cons c t ih =>
    simp only [Text.cutAt] at h
    split at h
    · simp_all
    · obtain ⟨⟨a', b'⟩, h', e⟩ := Option.map_eq_some_iff.mp h
      simp only [Prod.mk.injEq] at e
      have := ih (e.2 ▸ h')
      simp only [List.length_cons]
      omega

/-- The name and the default of a variable between braces. A default needs a name before it. -/
def splitDefault (inner : Text) : Text × Option Text :=
  match inner with
  | ':' :: '-' :: _ => (inner, none)
  | _ => go inner [] 
where
  /-- Looks for the mark of a default after some text, given last character first. -/
  go : Text → Text → Text × Option Text
    | ':' :: '-' :: d, before => (before.reverse, some d)
    | c :: r, before => go r (c :: before)
    | [], before => (before.reverse, none)

/-- The text with its variables replaced; nothing if one without a default is not set. -/
def expandVariables (env : Environment) : Text → Option Text
  | [] => some []
  | '$' :: '\x7b' :: r =>
    match h : Text.cutAt (· == '\x7d') r with
    | some (inner, rest) => do
      have := Text.length_cutAt h
      let (name, fallback) := splitDefault inner
      return (← (env.lookUp? name).or fallback) ++ (← expandVariables env rest)
    | none => (expandVariables env r).map fun t => '$' :: '\x7b' :: t
  | '$' :: '$' :: r => (expandVariables env r).map ('$' :: ·)
  | '$' :: c :: r =>
    if isWordChar c then do
      have := (List.dropWhile_sublist isWordChar (l := r)).length_le
      let value ← env.get? (c :: r.takeWhile isWordChar)
      return value ++ (← expandVariables env (r.dropWhile isWordChar))
    else (expandVariables env (c :: r)).map ('$' :: ·)
  | c :: r => (expandVariables env r).map (c :: ·)
termination_by t => t.length
decreasing_by all_goals simp only [List.length_cons]; omega

/-- The home directory. -/
def Environment.home? (env : Environment) : Option Text :=
  (env.get? "HOME".toList).filter (!·.isEmpty)

/-- The path with the home directory for a leading `~`. -/
def expandHome (env : Environment) (p : Text) : Text :=
  match p with
  | ['~'] => env.home?.getD p
  | '~' :: '/' :: r =>
    match env.home? with
    | some home => home ++ '/' :: r
    | none => p
  | _ => p

/-- The path that a configured path stands for (`expand_path`). -/
def expandPath (env : Environment) (p : Text) : Text :=
  expandHome env ((expandVariables env p).getD p)

/-- The path that a configured path stands for under a base directory (`resolve_with_base`). -/
def resolvePath (env : Environment) (base p : Text) : Text := Path.join base (expandPath env p)

/-- The paths of a collection's data (`IndexPaths`). -/
structure DataPaths where
  lemmaDir : Text
  indexFile : Text
  registryFile : Text
  deriving DecidableEq, Repr

/-- The paths that settings stand for under a base directory (`resolve`). -/
def Settings.resolve (env : Environment) (base : Text) (s : Settings) : DataPaths where
  lemmaDir := resolvePath env base s.lemmaDir
  indexFile := resolvePath env base s.indexFile
  registryFile := resolvePath env base s.registryFile

/-- The paths under a base directory where nothing is configured (`under`). -/
def DataPaths.under (env : Environment) (base : Text) : DataPaths :=
  Settings.standard.resolve env base

end Concordance

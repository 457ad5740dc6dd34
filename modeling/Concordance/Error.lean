import Concordance.Text.Decimal
import Concordance.Text.Quoted

/-!
# What can go wrong

Errors are causes. Their wording stands in one place, `Error.message?`, and a failure carries
besides its error what was being attempted, outermost attempt first.

Model of `Error` with the text that it is displayed as, and of the contexts that commands wrap
around an error.

Out of scope: the texts of errors that come from the system or from reading settings; only their
kind is kept.
-/

namespace Concordance

/-- What is wrong with a line of an index or a registry. -/
inductive LineFault where
  /-- A field of an index line, under its word as written, is no document number. -/
  | documentOfWord (field word : Text)
  /-- The first field of a registry line is no document number. -/
  | document (field : Text)
  deriving DecidableEq, Repr

/-- What is wrong with a text, and on which line, counted from one. -/
structure LineError where
  line : Nat
  fault : LineFault
  deriving DecidableEq, Repr

/-- Why settings cannot be read. -/
inductive SettingsFault where
  /-- A file is not in the settings format. -/
  | malformedFile
  /-- A value has another type than its setting. -/
  | wrongType
  /-- A list given in place of a table has too few values. -/
  | wrongLength
  /-- A setting has no value. -/
  | missing
  deriving DecidableEq, Repr

/-- The reason for which an operation fails. -/
inductive Error where
  /-- A setting is blank. -/
  | blankSetting (key : Text)
  /-- A file or directory that is needed does not exist. -/
  | notFound (path : Text)
  /-- A line of a file is malformed. -/
  | malformed (file : Text) (error : LineError)
  /-- A file cannot be read as text, or cannot be written. -/
  | inaccessible
  /-- The settings cannot be read. -/
  | settings (fault : SettingsFault)
  deriving DecidableEq, Repr

/-- An error, and what was attempted when it arose, outermost attempt first. -/
structure Failure where
  error : Error
  context : List Text
  deriving DecidableEq, Repr

/-! ## Wording -/

/-- The description of a fault in a line. -/
def LineFault.describe : LineFault → Text
  | .documentOfWord field word =>
    "invalid document id ".toList ++ Text.quoted field ++ " for lemma ".toList ++ Text.quoted word
  | .document field => "invalid document id ".toList ++ Text.quoted field

/-- A description with the place that it is about. -/
def atLine (file : Text) (line : Nat) (description : Text) : Text :=
  file ++ ':' :: (Text.toDecimal line ++ ':' :: ' ' :: description)

/-- A description of settings that cannot be used. -/
def ofSettings (description : Text) : Text := "Invalid configuration: ".toList ++ description

/-- What is said of a path that leads nowhere. -/
def ofMissing (path : Text) : Text := "Not found: ".toList ++ path

/-- What is said of a blank setting. -/
def ofBlank (key : Text) : Text := '\'' :: (key ++ "' must not be empty".toList)

/-- The message of an error; those of files and of the settings format have none of their own. -/
def Error.message? : Error → Option Text
  | .blankSetting key => some (ofSettings (ofBlank key))
  | .notFound path => some (ofMissing path)
  | .malformed file e => some (atLine file e.line e.fault.describe)
  | .inaccessible | .settings _ => none

/-- A failure of which nothing is known but the error. -/
def Error.failure (e : Error) : Failure := ⟨e, []⟩

/-- A failure within a further attempt. -/
def Failure.within (attempt : Text) (f : Failure) : Failure := ⟨f.error, attempt :: f.context⟩

end Concordance

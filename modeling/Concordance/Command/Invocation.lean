import Concordance.Settings.Load

/-!
# Invocations

What the words of a command line mean: a settings file and a command with its options; or why they
mean nothing to do, which includes that help or the version is asked for.

Model of `Cli`, `Command`, `BuildArgs`, `SearchArgs` and `OutputFormat`.

Out of scope: the texts of help and of refusals; only their kind is kept.
-/

namespace Concordance

/-- How hits are shown (`OutputFormat`). -/
inductive Format where
  | text
  | json
  deriving DecidableEq, Repr

namespace Command

/-- The options of building an index, each in place of a setting (`BuildArgs`). -/
structure BuildOptions where
  lemmaDir : Option Text
  output : Option Text
  deriving DecidableEq, Repr

/-- The options of searching, two of them in place of settings, and the words of the query
(`SearchArgs`). -/
structure SearchOptions where
  index : Option Text
  registry : Option Text
  format : Format
  query : List Text
  deriving DecidableEq, Repr

end Command

/-- What is to be done. -/
inductive Command where
  | build (options : Command.BuildOptions)
  | search (options : Command.SearchOptions)
  deriving DecidableEq, Repr

/-- What is to be done, and with which settings file (`Cli`). -/
structure Invocation where
  config : Text
  command : Command
  deriving DecidableEq, Repr

/-- Why the words of a command line mean nothing to be done. -/
inductive Refusal where
  /-- A word or option is not expected. -/
  | unexpected
  /-- An option has no value, or one that it does not accept. -/
  | badValue
  /-- An option is given twice. -/
  | repeated
  /-- A value is attached to an option that takes none. -/
  | needlessValue
  /-- There is no command of a name. -/
  | unknownCommand
  /-- There is no command. -/
  | noCommand
  /-- There is nothing at all. -/
  | nothing
  /-- Help is asked for. -/
  | help
  /-- The version is asked for. -/
  | version
  deriving DecidableEq, Repr

/-- What is shown where the version is asked for. -/
def versionText : Text := "lexidx 0.1.0\n".toList

namespace Command

/-! ## Options -/

/-- The options that take a value. -/
inductive OptionName where
  | config
  | lemmaDir
  | output
  | index
  | registry
  | format
  deriving DecidableEq, Repr

/-- The names of formats. -/
def formats : List (Text × Format) := [("text".toList, .text), ("json".toList, .json)]

/-- The format of a name. -/
def format? (name : Text) : Option Format := (formats.find? (·.1 = name)).map (·.2)

/-- Whether an option accepts a value: a format has to be known, and a path must not be empty. -/
def OptionName.accepts (o : OptionName) (value : Text) : Bool :=
  match o with
  | .format => (format? value).isSome
  | _ => !value.isEmpty

/-- What a word that starts with a hyphen may be. -/
inductive Switch where
  /-- An option that takes a value. -/
  | option (name : OptionName)
  /-- A request for help or for the version. -/
  | request (answer : Refusal)
  deriving DecidableEq, Repr

/-- The names of commands. -/
inductive CommandName where
  | build
  | search
  | help
  deriving DecidableEq, Repr

/-- What is expected before or after the name of a command. -/
structure Level where
  long : List (Text × Switch)
  short : List (Char × Switch)
  commands : List (Text × CommandName)
  /-- Whether words are taken that are neither options nor commands. -/
  takesWords : Bool

namespace Level

/-- The switches that are expected everywhere. -/
def common : List (Text × Switch) :=
  [("config".toList, .option .config), ("help".toList, .request .help)]

/-- What is expected before the name of a command. -/
def top : Level where
  long := ("version".toList, .request .version) :: common
  short := [('h', .request .help), ('V', .request .version)]
  commands := [("build".toList, .build), ("search".toList, .search), ("help".toList, .help)]
  takesWords := false

/-- What is expected after the name of the command that builds. -/
def build : Level where
  long := ("lemma-dir".toList, .option .lemmaDir) :: ("output".toList, .option .output) :: common
  short := [('o', .option .output), ('h', .request .help)]
  commands := []
  takesWords := false

/-- What is expected after the name of the command that searches. -/
def search : Level where
  long := ("index".toList, .option .index) :: ("registry".toList, .option .registry) ::
    ("format".toList, .option .format) :: common
  short := [('h', .request .help)]
  commands := []
  takesWords := true

/-- The command of a name. -/
def command? (l : Level) (name : Text) : Option CommandName :=
  (l.commands.find? (·.1 = name)).map (·.2)

/-- The switch of a name after two hyphens. -/
def long? (l : Level) (name : Text) : Option Switch := (l.long.find? (·.1 = name)).map (·.2)

/-- The switch of a letter after one hyphen. -/
def short? (l : Level) (c : Char) : Option Switch := (l.short.find? (·.1 = c)).map (·.2)

end Level

end Command

end Concordance

import Concordance.Command.Arguments
import Concordance.Command.Report
import Concordance.Pages
import Concordance.Store

/-!
# Running commands

Building takes the words of every document from a directory and writes their index to a file; it
shows nothing unless all of that succeeds. The system may refuse any step of it (`Limits`), and also
to show the report to its end. Searching loads a collection, takes a query from the command line or
else from the first line of the input, which is asked for at the console, and shows the hits; here
too any step may be refused (`SearchLimits`).

Model of the `run` of each command, `prompt` (`SearchLimits.ask`) and `resolve_paths`. `runUnder`
has every step that can fail; `run` is the same where none does.

Out of scope: log lines and the progress bar, neither of which is output of a command.
-/

namespace Concordance.Command

/-- What a command leaves behind: the files, what it shows, what it says to someone at the console,
and what it has counted, or why it failed. -/
structure Result where
  tree : FileTree
  shown : Text
  console : Text
  outcome : Except Failure (Option Stats)

/-- A step of a command, with what is attempted. -/
def attempt (what : Text) (r : Except Error α) : Except Failure α :=
  r.mapError fun e => e.failure.within what

/-! ## Building -/

/-- What is attempted when the words of documents are looked for. -/
def openingPages (lemmaDir : Text) : Text :=
  "Lemma directory ".toList ++ lemmaDir ++ " is unavailable; run the lemmatizer first".toList

/-- What is attempted when an index is written. -/
def writingIndex (output : Text) : Text := "Failed to write index to ".toList ++ output

/-- The builder that has taken the documents of a directory one after another. -/
def gather (f : FileTree) (lemmaDir : Text) (unseen : FileTree.Unseen := .none) :
    Except Failure Builder := do
  let pages ← attempt (openingPages lemmaDir) (Pages.scan f lemmaDir unseen)
  pages.documents.foldlM (fun b d => (b.ingestPage f pages d unseen).mapError Error.failure) ∅

/-- How many bytes can be shown, if there is an end to it. -/
abbrev Room := Option Nat

/-- The bytes that are shown of those that are to be. -/
def Room.take (room : Room) (bytes : List UInt8) : List UInt8 :=
  match room with
  | none => bytes
  | some n => bytes.take n

/-- Whether all of the bytes can be shown. -/
def Room.holds (room : Room) (bytes : List UInt8) : Bool :=
  match room with
  | none => true
  | some n => bytes.length ≤ n

/-- What the system refuses: some looks at the disk, some steps of writing a file, and to show more
than there is room for. -/
structure Limits where
  unseen : FileTree.Unseen
  refuses : FileTree.Refusals
  room : Room

/-- The system refuses nothing. -/
def Limits.none : Limits := ⟨.none, .none, Option.none⟩

/-- What building leaves behind: the files, the bytes that it shows, and what it has counted, or why
it failed. -/
structure Built where
  tree : FileTree
  shown : List UInt8
  outcome : Except Failure Stats

namespace BuildOptions

/-- The directory that words are taken from. -/
def source (o : BuildOptions) (paths : DataPaths) : Text := o.lemmaDir.getD paths.lemmaDir

/-- The file that the index is written to. -/
def target (o : BuildOptions) (paths : DataPaths) : Text := o.output.getD paths.indexFile

/-- Takes the words of every document and writes their index, whatever the system refuses. -/
def write (o : BuildOptions) (limits : Limits) (paths : DataPaths) (f : FileTree) :
    FileTree × Except Failure Stats :=
  match gather f (o.source paths) limits.unseen with
  | .error e => (f, .error e)
  | .ok b =>
    let (g, r) := b.saveUnder f limits.refuses (o.target paths)
    (g, attempt (writingIndex (o.target paths)) r)

/-- Builds an index, whatever the system refuses. -/
def runUnder (o : BuildOptions) (limits : Limits) (paths : DataPaths) (f : FileTree) : Built :=
  match o.write limits paths f with
  | (g, .error e) => ⟨g, [], .error e⟩
  | (g, .ok stats) =>
    let report := Text.bytes (buildReport (o.target paths) stats)
    ⟨g, limits.room.take report,
      if limits.room.holds report then .ok stats else .error Error.inaccessible.failure⟩

/-- Builds an index, where the system refuses nothing. -/
def run (o : BuildOptions) (paths : DataPaths) (f : FileTree) : Result :=
  match o.write .none paths f with
  | (g, .error e) => ⟨g, [], [], .error e⟩
  | (g, .ok stats) => ⟨g, buildReport (o.target paths) stats, [], .ok (some stats)⟩

end BuildOptions

/-! ## Searching -/

/-- What the system refuses to a search: some looks at the disk, to show more than there is room
for, to show more to someone at the console or to pass it on to them, and to read on where the bytes
of the input end. -/
structure SearchLimits where
  unseen : FileTree.Unseen
  room : Room
  console : Room
  flushes : Bool
  ends : Bool

/-- The system refuses nothing: the input comes to its end. -/
def SearchLimits.none : SearchLimits := ⟨.none, Option.none, Option.none, true, true⟩

/-- What searching leaves behind: the bytes that it shows, those that it shows at the console, and
whether it was done, or why not. The files stay as they are. -/
structure Searched where
  shown : List UInt8
  console : List UInt8
  outcome : Except Failure Unit

/-- What is attempted when a collection is loaded. -/
def openingIndex (indexFile : Text) : Text :=
  "Cannot open index ".toList ++ indexFile ++ "; run `lexidx build` first".toList

/-- The first line of an input, with its line feed if it has one. -/
def firstLine (input : List UInt8) : List UInt8 :=
  input.takeWhile (· ≠ 10) ++ (input.dropWhile (· ≠ 10)).take 1

/-- The query in the first line of an input. -/
def typedQuery (input : List UInt8) : Except Failure Text :=
  match Text.ofBytes? ⟨(firstLine input).toArray⟩ with
  | some t => .ok t
  | none => .error Error.inaccessible.failure

namespace SearchLimits

/-- Whether someone at the console is shown the prompt to its end. -/
def prompts (limits : SearchLimits) : Bool :=
  limits.console.holds (Text.bytes prompt) && limits.flushes

/-- Whether the first line of an input can be read: it has a line feed, or else the input ends. -/
def reads (limits : SearchLimits) (input : List UInt8) : Bool := input.contains 10 || limits.ends

/-- The query that someone types once they are shown the prompt (`prompt`). -/
def ask (limits : SearchLimits) (input : List UInt8) : Except Failure Text :=
  if limits.prompts && limits.reads input then typedQuery input
  else .error Error.inaccessible.failure

end SearchLimits

/-- What is shown of a query, without the white space around it. -/
def answer (c : Collection) (format : Format) (query : Text) : Text :=
  let query := Text.trim query
  if query.isEmpty then emptyReport else hitReport query (c.hits query) format

namespace SearchOptions

/-- The collection that is searched, or why there is none. -/
def collection (o : SearchOptions) (paths : DataPaths) (f : FileTree)
    (unseen : FileTree.Unseen := .none) : Except Failure Collection :=
  let indexFile := o.index.getD paths.indexFile
  let registryFile := o.registry.getD paths.registryFile
  attempt (openingIndex indexFile) (Collection.load f indexFile registryFile unseen)

/-- The query that is given in words. -/
def given (o : SearchOptions) : Text := Text.join [' '] o.query

/-- The query: someone types it if no words of it are given. -/
def asked (o : SearchOptions) (limits : SearchLimits) (input : List UInt8) : Except Failure Text :=
  if o.query.isEmpty then limits.ask input else .ok o.given

/-- What someone at the console is to be shown. -/
def console (o : SearchOptions) : Text := if o.query.isEmpty then prompt else []

/-- Searches a collection, whatever the system refuses. -/
def runUnder (o : SearchOptions) (limits : SearchLimits) (paths : DataPaths) (f : FileTree)
    (input : List UInt8) : Searched :=
  match o.collection paths f limits.unseen with
  | .error e => ⟨[], [], .error e⟩
  | .ok c =>
    let console := limits.console.take (Text.bytes o.console)
    match o.asked limits input with
    | .error e => ⟨[], console, .error e⟩
    | .ok query =>
      let report := Text.bytes (answer c o.format query)
      ⟨limits.room.take report, console,
        if limits.room.holds report then .ok () else .error Error.inaccessible.failure⟩

/-- Searches a collection, where the system refuses nothing. -/
def run (o : SearchOptions) (paths : DataPaths) (f : FileTree) (input : List UInt8) : Result :=
  match o.collection paths f with
  | .error e => ⟨f, [], [], .error e⟩
  | .ok c =>
    match o.asked .none input with
    | .error e => ⟨f, [], o.console, .error e⟩
    | .ok query => ⟨f, answer c o.format query, o.console, .ok none⟩

end SearchOptions

/-! ## Both -/

/-- What is attempted when settings are loaded. -/
def loadingSettings (config : Text) : Text :=
  "Failed to load configuration from ".toList ++ config

/-- The data paths of an invocation (`resolve_paths`). -/
def pathsOf (f : FileTree) (env : Environment) (config : Text) : Except Failure DataPaths :=
  attempt (loadingSettings config) (DataPaths.load f env config)

/-- Does what an invocation says. -/
def run (f : FileTree) (env : Environment) (input : List UInt8) (i : Invocation) : Result :=
  match pathsOf f env i.config with
  | .error e => ⟨f, [], [], .error e⟩
  | .ok paths =>
    match i.command with
    | .build o => o.run paths f
    | .search o => o.run paths f input

end Concordance.Command

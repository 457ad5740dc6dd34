import Concordance.Command.Run

/-!
# The program

The thin layer between a command and the disk. What the command may look at is read into a file
tree, the command runs on the tree, and what it changed there is written back. Results go to the
standard output, everything else to the standard error.

Model of `main`.

Out of scope: log lines. Links on the disk are read as what they lead to, and permission bits not at
all.
-/

namespace Concordance.Program

/-! ## Reading the disk -/

/-- The variables of the program. -/
def readVariables : IO Environment := do
  let bytes ← IO.FS.readBinFile "/proc/self/environ"
  let texts := (Text.ofBytes? bytes).map (Text.pieces (· == '\x00'))
  return .ofList ((texts.getD []).filterMap (Text.cutAt (· == '=')))

/-- Puts the file or directory at the end of a path in a tree. -/
def copyPath (f : FileTree) (p : Text) : IO FileTree := do
  if p.isEmpty then return f
  let path := (← IO.currentDir) / String.ofList p
  if ← path.isDir then return (f.makeDirs p).1
  else if ← path.pathExists then
    return (f.writeFile? p (← IO.FS.readBinFile path)).getD f
  else return f

/-- Puts what is on the way along a path in a tree. -/
def copyLineage (f : FileTree) (p : Text) : IO FileTree :=
  (FileTree.lineage p).reverse.foldlM copyPath f

/-- Puts the word lists of documents in a tree. -/
def copyPages (f : FileTree) (root : Text) : IO FileTree := do
  let f ← copyLineage f root
  let path := (← IO.currentDir) / String.ofList root
  if ← path.isDir then
    (← path.readDir).toList.foldlM (fun f e => do
      if (← e.path.symlinkMetadata).type == .dir then
        let dir := Path.join root e.fileName.toList
        copyPath (f.makeDirs dir).1 (Path.join dir wordFile)
      else return f) f
  else return f

/-- Puts the files that a path of settings may mean in a tree. -/
def copySettings (f : FileTree) (env : Environment) (p : Text) : IO FileTree := do
  let paths := p :: ((profile? env).bind (profilePath? p)).toList
  let dirs := (List.range (f.here.length + 1)).map fun n => Place.toPath (f.here.take n)
  (dirs.flatMap fun dir => paths.map (Path.join dir)).foldlM copyPath f

/-- The working directory with what an invocation may look at. -/
def readTree (env : Environment) (i : Invocation) : IO FileTree := do
  let here := Text.pieces (· == '/') (← IO.currentDir).toString.toList |>.filter (!·.isEmpty)
  let dirs := (List.range here.length).map fun n => (here.take (n + 1), Node.dir 0o755)
  let f ← copySettings ⟨.ofList dirs, here, 0o022⟩ env i.config
  match Command.pathsOf f env i.config, i.command with
  | .error _, _ => return f
  | .ok paths, .build o => do
    copyLineage (← copyPages f (o.lemmaDir.getD paths.lemmaDir)) (o.output.getD paths.indexFile)
  | .ok paths, .search o => do
    let f ← copyLineage f (o.index.getD paths.indexFile)
    copyLineage f (o.registry.getD paths.registryFile)

/-- The bytes of a line of the standard input, with its line feed. -/
partial def readLine (input : IO.FS.Stream) (before : List UInt8) : IO (List UInt8) := do
  match (← input.read 1).data.toList with
  | [b] => if b = 10 then return (b :: before).reverse else readLine input (b :: before)
  | _ => return before.reverse

/-! ## Writing to the disk -/

/-- Writes what a tree has and another does not have. A file is moved into place. -/
def writeChanges (before after : FileTree) : IO Unit :=
  after.nodes.toList.forM fun (place, node) => do
    if before.nodes.get? place != some node then
      let path := String.ofList place.toPath
      match node with
      | .dir _ => IO.FS.createDirAll path
      | .file _ content =>
        let temp := place.dropLast ++ [FileTree.tempMark ++ ['t', 'm', 'p']]
        let temp := String.ofList (Place.toPath temp)
        IO.FS.writeBinFile temp content
        IO.FS.rename temp path
      | .link _ => return

/-! ## Running -/

/-- How the program is used. -/
def usage : Text :=
  ("Boolean search over a lemma inverted index.\n\n" ++
    "Usage: lexidx [--config FILE] build [--lemma-dir DIR] [-o, --output FILE]\n" ++
    "       lexidx [--config FILE] search [--index FILE] [--registry FILE]" ++
    " [--format text|json] [QUERY...]\n").toList

/-- What is said of an error. -/
def explain (e : Error) : Text :=
  e.message?.getD <| match e with
    | .settings _ => "the settings cannot be read".toList
    | _ => "a file cannot be read or written".toList

/-- Does what an invocation says. A query is only asked for where the command wants one. -/
def perform (env : Environment) (i : Invocation) : IO UInt32 := do
  let out ← IO.getStdout
  let console ← IO.getStderr
  let f ← readTree env i
  let dry := Command.run f env [] i
  let r ← if dry.console.isEmpty then pure dry else do
    console.putStr (String.ofList dry.console)
    console.flush
    pure (Command.run f env (← readLine (← IO.getStdin) []) i)
  writeChanges f r.tree
  out.putStr (String.ofList r.shown)
  match r.outcome with
  | .ok _ => return 0
  | .error e =>
    (e.context ++ [explain e.error]).forM fun t => console.putStrLn (String.ofList t)
    return 1

end Concordance.Program

open Concordance in
/-- Runs the program on the words of its command line. -/
def main (args : List String) : IO UInt32 := do
  let env ← Program.readVariables
  match Command.readWords env (args.map String.toList) with
  | .ok i => Program.perform env i
  | .error .help =>
    (← IO.getStdout).putStr (String.ofList Program.usage)
    return 0
  | .error .version =>
    (← IO.getStdout).putStr (String.ofList versionText)
    return 0
  | .error _ =>
    (← IO.getStderr).putStr (String.ofList Program.usage)
    return 2

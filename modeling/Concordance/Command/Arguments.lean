import Concordance.Command.Invocation

/-!
# Reading the words of a command line

An option is written with two hyphens and its name, or with one hyphen and its letter. Its value is
attached to it, or is the word after it. Before the name of a command stand options that concern
every command, after it those of the command; where the words of a query are expected, the first
word that is not a known option starts the query, and everything after it belongs to it. After two
hyphens there are no more options.

An attached value is checked at once, but a value in a word of its own only when the next option,
request or word of a query comes, or the words end. So an unexpected word is found before a bad
value that stands before it.

Model of how `Cli` is read from the words of a command line.

Out of scope: words that are no texts.
-/

namespace Concordance.Command

/-- The values that were given at a level, and an option whose value is a word of its own, as long
as the value is not checked. -/
structure Given where
  values : List (OptionName × Text)
  pending : Option (OptionName × Option Text)
  deriving DecidableEq, Repr

namespace Given

instance : EmptyCollection Given := ⟨⟨[], none⟩⟩

/-- The value of an option. -/
def value? (g : Given) (o : OptionName) : Option Text := (g.values.find? (·.1 = o)).map (·.2)

/-- The option that awaits its value. -/
def awaited? (g : Given) : Option OptionName :=
  match g.pending with
  | some (o, none) => some o
  | _ => none

/-- Takes the value of an option, which must not have one yet. -/
def take (g : Given) (o : OptionName) (value : Text) : Except Refusal Given :=
  if (g.value? o).isSome then .error .repeated
  else if o.accepts value then .ok { g with values := g.values ++ [(o, value)] }
  else .error .badValue

/-- Checks the value that is not checked yet. -/
def settle (g : Given) : Except Refusal Given :=
  match g.pending with
  | none => .ok g
  | some (_, none) => .error .badValue
  | some (o, some v) => { g with pending := none }.take o v

/-- Takes the option of which the value is the next word. -/
def await (g : Given) (o : OptionName) : Except Refusal Given := do
  return { (← g.settle) with pending := some (o, none) }

/-- Takes an option with its value. -/
def attach (g : Given) (o : OptionName) (value : Text) : Except Refusal Given := do
  (← g.settle).take o value

end Given

/-! ## Words -/

/-- What a word is at a level. -/
inductive Word where
  /-- No switch, so a value, a word of a query or the name of a command. -/
  | plain
  /-- A switch, and a value that is attached to it. -/
  | switch (s : Switch) (value : Option Text)
  /-- A switch that is not expected. -/
  | unknown
  deriving DecidableEq, Repr

/-- The value that is attached to a letter. -/
def attached? : Text → Option Text
  | [] => none
  | '=' :: v => some v
  | v => some v

/-- What a word is. Where words of a query are expected, one hyphen and letters that are not all
known is none of the switches. -/
def Level.word (l : Level) : Text → Word
  | '-' :: '-' :: r =>
    let (name, value) := match Text.cutAt (· == '=') r with
      | some (name, value) => (name, some value)
      | none => (r, none)
    match l.long? name with
    | some s => .switch s value
    | none => .unknown
  | ['-'] => .plain
  | '-' :: c :: r =>
    if l.takesWords && (c :: r).any fun x => (l.short? x).isNone then .unknown
    else match l.short? c with
      | some (.option o) => .switch (.option o) (attached? r)
      | some s => .switch s none
      | none => .unknown
  | _ => .plain

/-! ## Reading a level -/

/-- How the words at a level end: with the words of a query, maybe none, or with a command. -/
inductive Ending where
  | words (query : List Text)
  | command (name : CommandName) (rest : List Text)
  deriving DecidableEq, Repr

/-- The refusal of a word that is no switch. -/
def Level.refusal (l : Level) : Refusal :=
  if l.commands.isEmpty then .unexpected else .unknownCommand

/-- Reads the words after two hyphens. -/
def Level.readRest (l : Level) (g : Given) : List Text → Except Refusal (Given × Ending)
  | [] => .ok (g, .words [])
  | w :: ws =>
    if l.takesWords then do return (← g.settle, .words (w :: ws))
    else .error (if (l.command? w).isSome then .unexpected else l.refusal)

/-- Reads the words at a level. -/
def Level.read (l : Level) (g : Given) : List Text → Except Refusal (Given × Ending)
  | [] => .ok (g, .words [])
  | w :: ws =>
    match if g.awaited?.isSome then none else l.command? w with
    | some name => .ok (g, .command name ws)
    | none =>
      if w = ['-', '-'] then l.readRest g ws
      else match l.word w with
        | .switch (.request _) (some _) => .error .needlessValue
        | .switch (.request answer) none => do
          let _ ← g.settle
          .error answer
        | .switch (.option o) (some v) => do l.read (← g.attach o v) ws
        | .switch (.option o) none => do l.read (← g.await o) ws
        | word =>
          if word = .unknown && !l.takesWords then .error .unexpected
          else match g.awaited? with
            | some o => l.read { g with pending := some (o, some w) } ws
            | none =>
              if l.takesWords then do return (← g.settle, .words (w :: ws)) else .error l.refusal

/-! ## Reading a command line -/

/-- The variable that names the settings file where no option does. -/
def configVariable : Text := "LEXIDX_CONFIG".toList

/-- Checks what is not checked yet when a level is done. The variable counts as an option that is
given where the option itself is not. -/
def Given.finish (g : Given) (env : Environment) : Except Refusal Given := do
  let g ← g.settle
  match g.value? .config, env.get? configVariable with
  | none, some v => if OptionName.config.accepts v then return g else .error .badValue
  | _, _ => return g

/-- The command of a name with the options that are given for it. -/
def ofGiven (g : Given) (query : List Text) : CommandName → Command
  | .build => .build ⟨g.value? .lemmaDir, g.value? .output⟩
  | _ => .search
    { index := g.value? .index
      registry := g.value? .registry
      format := ((g.value? .format).bind format?).getD .text
      query }

/-- The level after the name of a command. -/
def Level.after : CommandName → Level
  | .build => .build
  | _ => .search

/-- The answer to a command that asks for help, which may be about one command. -/
def helpAnswer : List Text → Refusal
  | [] => .help
  | [w] => if (Level.top.command? w).isSome then .help else .unknownCommand
  | _ => .unknownCommand

/-- Reads a command line. What is wrong after the name of the command comes before what is left to
be checked before it. Of the settings files that are named, that after the command counts, then that
before it, then that of the variable. -/
def readWords (env : Environment) (words : List Text) : Except Refusal Invocation := do
  match ← Level.top.read ∅ words with
  | (g, .words _) =>
    let g ← g.finish env
    if g.values.isEmpty && (env.get? configVariable).isNone then .error .nothing
    else .error .noCommand
  | (_, .command .help rest) => .error (helpAnswer rest)
  | (g, .command name rest) =>
    let level := Level.after name
    match ← level.read ∅ rest with
    | (_, .command _ _) => .error .unexpected
    | (h, .words query) =>
      let h ← h.finish env
      let g ← g.finish env
      let named := (h.value? .config).or ((g.value? .config).or (env.get? configVariable))
      return ⟨named.getD Configuration.standardPath, ofGiven h query name⟩

end Concordance.Command

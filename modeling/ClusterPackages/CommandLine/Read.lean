import ClusterPackages.CommandLine.Grammar

namespace ClusterPackages.CommandLine

open Text

/-!
# Reading a command line

Options of all commands may stand before and after the name of the command.  The arguments before
the name and those after it are read on their own; what is given after it counts first.  A value
that is an argument of its own is looked at only when more comes, so a page of help that a command
asks for comes before what is wrong with the last value before its name.

* `Stop` — why there is nothing to run.
* `Level.read` — the options and the argument among arguments.
* `Line.read` — the command that a line asks for.
-/

/-- Why there is nothing to run. -/
inductive Stop where
  /-- The line is not of the grammar. -/
  | misuse
  /-- A page of help is asked for, of a command or of the program. -/
  | help (form : Option Form)
  /-- The page of the help command is asked for. -/
  | helpOnHelp
deriving DecidableEq, Repr

/-- What has been given among arguments. -/
structure Level where
  /-- The values of the options that were given; a switch has none. -/
  given : List (String × List String)
  /-- The argument. -/
  argument : Option String
  /-- The last option and its value, while they have not been looked at. -/
  held : Option (Flag × String)
deriving DecidableEq, Repr

/-- Where arguments are read. -/
structure Place where
  /-- The command, unless its name is still to come. -/
  form : Option Form
  /-- The options that count there. -/
  flags : List Flag

namespace Level

/-- Nothing has been given. -/
def empty : Level := ⟨[], none, none⟩

/-- The values of an option, if it was given. -/
def values? (l : Level) (f : Flag) : Option (List String) := l.given.lookup f.name

/-- The values that a text gives to an option. -/
def valuesOf (f : Flag) (text : String) : List String :=
  if f.isList then segments ',' text else [text]

/-- Adds an option with values.  Only one that is a list may be given twice. -/
def give (l : Level) (f : Flag) (values : List String) : Except Stop Level :=
  match l.values? f with
  | none => .ok { l with given := l.given ++ [(f.name, values)] }
  | some before =>
    if f.isList then
      let others := l.given.filter fun g => g.1 != f.name
      .ok { l with given := others ++ [(f.name, before ++ values)] }
    else .error .misuse

/-- Adds an option with its value. -/
def giveText (l : Level) (f : Flag) (text : String) : Except Stop Level :=
  if f.isFilled && text.isEmpty then .error .misuse else l.give f (valuesOf f text)

/-- Adds the option and the value that are held. -/
def settle (l : Level) : Except Stop Level :=
  match l.held with
  | none => .ok l
  | some (f, text) => { l with held := none }.giveText f text

/-- Adds the argument of a command, of which there is at most one. -/
def giveArgument (l : Level) (p : Place) (text : String) : Except Stop Level := do
  let l ← l.settle
  match p.form.bind (·.argument), l.argument with
  | some _, none => .ok { l with argument := some text }
  | _, _ => .error .misuse

/-- The name of a long option and the value attached to it. -/
def cutLong (text : String) : String × Option String :=
  let cs := text.toList
  (String.ofList (cs.takeWhile (· ≠ '=')), (cs.dropWhile (· ≠ '=')).tail?.map String.ofList)

/-- What an argument looks like. -/
inductive Shape where
  /-- The two hyphens after which no option comes. -/
  | separator
  /-- A long option, possibly with a value. -/
  | long (name : String) (value : Option String)
  /-- A short option. -/
  | short (letter : Char)
  /-- Anything else. -/
  | plain
deriving DecidableEq, Repr

/-- What an argument looks like. -/
def shapeOf (text : String) : Shape :=
  match text.toList with
  | ['-', '-'] => .separator
  | '-' :: '-' :: rest =>
    let (name, value) := cutLong (String.ofList rest)
    .long name value
  | '-' :: letter :: _ => .short letter
  | _ => .plain

/-- What comes next. -/
inductive Next where
  /-- Anything. -/
  | any
  /-- The value of an option. -/
  | value (f : Flag)
  /-- Arguments only. -/
  | arguments

/-- Takes a long option. -/
def takeLong (l : Level) (p : Place) (name : String) (value : Option String) :
    Except Stop (Level × Next) := do
  let l ← l.settle
  if name = helpFlag.name && value.isNone then .error (.help p.form)
  else
    match p.flags.find? fun f => f.name == name with
    | none => .error .misuse
    | some f =>
      match f.value, value with
      | some _, some text => (l.giveText f text).map (·, .any)
      | some _, none => .ok (l, .value f)
      | none, none => (l.give f []).map (·, .any)
      | none, some _ => .error .misuse

/-- Takes an argument. -/
def take (l : Level) (p : Place) : Next → String → Except Stop (Level × Next)
  | .arguments, text => (l.giveArgument p text).map (·, .arguments)
  | .value f, text =>
    if shapeOf text = .plain then .ok ({ l with held := some (f, text) }, .any)
    else .error .misuse
  | .any, text =>
    match shapeOf text with
    | .separator => .ok (l, .arguments)
    | .long name value => l.takeLong p name value
    | .short letter => do
      let _ ← l.settle
      .error (if letter = 'h' then .help p.form else .misuse)
    | .plain => (l.giveArgument p text).map (·, .any)

/-- Reads arguments up to the name of a command, if one is still to come, or to the end. -/
def readFrom (p : Place) : Level → Next → List String → Except Stop (Level × List String)
  | _, .value _, [] => .error .misuse
  | l, _, [] => .ok (l, [])
  | l, next, text :: rest =>
    match next, p.form with
    | .any, none =>
      if text = helpCommand || (form? text).isSome then .ok (l, text :: rest)
      else do
        let (l, next) ← l.take p next text
        readFrom p l next rest
    | _, _ => do
      let (l, next) ← l.take p next text
      readFrom p l next rest

/-- Reads arguments. -/
def read (p : Place) (args : List String) : Except Stop (Level × List String) :=
  readFrom p .empty .any args

end Level

/-- A command line. -/
structure Line where
  /-- The command. -/
  form : Form
  /-- What was given before its name. -/
  before : Level
  /-- What was given after its name. -/
  after : Level
  /-- The variables of the surroundings. -/
  environment : String → Option String

namespace Line

/-- The page that names after the help command ask for. -/
def helpPage : List String → Stop
  | [] => .help none
  | [name] =>
    match form? name with
    | some f => .help (some f)
    | none => if name = helpCommand then .helpOnHelp else .misuse
  | _ => .misuse

/-- Whether a variable that has to have characters is empty where it would be taken. -/
def lacksValue (environment : String → Option String) (flags : List Flag) (l : Level) : Bool :=
  flags.any fun f =>
    f.isFilled && (l.values? f).isNone && (f.fallback.bind environment) == some ""

/-- The command that a line asks for. -/
def read (environment : String → Option String) (args : List String) : Except Stop Line := do
  let (before, rest) ← Level.read ⟨none, globalFlags⟩ args
  match rest with
  | [] => .error .misuse
  | name :: rest =>
    match form? name with
    | none => .error (helpPage rest)
    | some f =>
      let (after, _) ← Level.read ⟨some f, f.allFlags⟩ rest
      let after ← after.settle
      let before ← before.settle
      if (f.argument.isSome && after.argument.isNone)
          || lacksValue environment f.allFlags after
          || lacksValue environment globalFlags before then
        .error .misuse
      else .ok ⟨f, before, after, environment⟩

/-- The values of an option of the command itself. -/
def own? (line : Line) (name : String) : Option (List String) :=
  if line.form.flags.any (·.name == name) then line.after.given.lookup name else none

/-- The values of an option of all commands: those given after the name of the command, or else
    those given before it, or else those of a variable. -/
def shared? (line : Line) (f : Flag) : Option (List String) :=
  (if line.form.flags.any (·.name == f.name) then none else line.after.values? f)
    <|> line.before.values? f
    <|> (f.fallback.bind line.environment).map (Level.valuesOf f)

end Line

end ClusterPackages.CommandLine

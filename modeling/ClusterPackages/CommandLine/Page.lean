import ClusterPackages.CommandLine.Grammar

namespace ClusterPackages.CommandLine

open Text

/-!
# Pages of help

A page says what a command does, how it is called, and which commands, arguments and options it
has, each explained in a column of its own.

* `programPage` — the page of the program.
* `formPage` — the page of a command.
* `helpPage` — the page of the command that prints pages.
-/

/-- So many spaces. -/
def spaces (n : Nat) : String := String.ofList (List.replicate n ' ')

/-- Rows of names and explanations, in two columns.  An explanation of several lines stays in its
    column. -/
def columns (rows : List (String × String)) : String :=
  let width := (rows.map (·.1.length)).foldl max 0
  concat (rows.map fun (name, help) =>
    "  " ++ name ++ spaces (width + 2 - name.length)
      ++ join ("\n" ++ spaces (width + 4)) (segments '\n' help) ++ "\n")

/-- The name of an option as it stands on a page. -/
def flagName (f : Flag) : String :=
  let long := "--" ++ f.name
  let short := if f.name = helpFlag.name then "-h, " else "    "
  match f.value with
  | some value => short ++ long ++ " <" ++ value ++ ">"
  | none => short ++ long

/-- The explanation of an option, with the variable that it is taken from. -/
def flagHelp (environment : String → Option String) (f : Flag) : String :=
  match f.fallback with
  | some v => f.help ++ " [env: " ++ v ++ "=" ++ (environment v).getD "" ++ "]"
  | none => f.help

/-- The options of a command in the order of a page: by their place where they are declared, then
    by name. -/
def pageFlags (f : Form) : List Flag :=
  let shared := globalFlags.zipIdx.filter fun g => !f.flags.any (·.name == g.1.name)
  let before := fun (a b : Flag × Nat) => a.2 < b.2 || (a.2 == b.2 && a.1.name ≤ b.1.name)
  ((f.flags.zipIdx ++ shared).mergeSort before).map (·.1)

/-- The options of a page. -/
def optionRows (environment : String → Option String) (flags : List Flag) : String :=
  "Options:\n"
    ++ columns ((flags ++ [helpFlag]).map fun f => (flagName f, flagHelp environment f))

/-- The page of the program. -/
def programPage (environment : String → Option String) : String :=
  about ++ "\n\nUsage: " ++ program ++ " [OPTIONS] <COMMAND>\n\nCommands:\n"
    ++ columns (forms.map (fun f => (f.name, f.about)) ++ [(helpCommand, helpAbout)])
    ++ "\n" ++ optionRows environment globalFlags

/-- The page of a command. -/
def formPage (environment : String → Option String) (f : Form) : String :=
  let argument := f.argument.map fun name => "<" ++ name ++ ">"
  f.about ++ "\n\nUsage: " ++ program ++ " " ++ f.name ++ " [OPTIONS]"
    ++ (match argument with
      | some name => " " ++ name ++ "\n\nArguments:\n" ++ columns [(name, "")] ++ "\n"
      | none => "\n\n")
    ++ optionRows environment (pageFlags f)

/-- The page of the command that prints pages. -/
def helpPage : String :=
  helpAbout ++ "\n\nUsage: " ++ program ++ " " ++ helpCommand ++ " [COMMAND]...\n\nArguments:\n"
    ++ columns [("[COMMAND]...", "Print help for the subcommand(s)")]

end ClusterPackages.CommandLine

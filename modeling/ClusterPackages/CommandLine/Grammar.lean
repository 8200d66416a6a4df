import ClusterPackages.Text.Affix

namespace ClusterPackages.CommandLine

/-!
# The grammar of the command line

* `Flag` — an option that starts with two hyphens.
* `Form` — a command with its options and its argument.
* `globalFlags`, `forms` — the options and commands that there are.
-/

/-- An option. -/
structure Flag where
  /-- Its name, without the hyphens. -/
  name : String
  /-- The name of its value; a switch has none. -/
  value : Option String
  /-- The variable from which its value is taken when it is not given. -/
  fallback : Option String
  /-- Whether it may be given more than once, and its value is a list. -/
  isList : Bool
  /-- Whether its value has to have characters. -/
  isFilled : Bool
  /-- What it does. -/
  help : String
deriving DecidableEq, Repr

/-- A command. -/
structure Form where
  /-- Its name. -/
  name : String
  /-- Its other names. -/
  aliases : List String
  /-- What it does. -/
  about : String
  /-- The name of its argument, which has to be given. -/
  argument : Option String
  /-- Its options. -/
  flags : List Flag
deriving DecidableEq, Repr

/-- An option with a text as its value. -/
def Flag.text (name value : String) (fallback : Option String) (help : String) : Flag :=
  ⟨name, some value, fallback, false, false, help⟩

/-- A switch. -/
def Flag.switch (name help : String) : Flag := ⟨name, none, none, false, false, help⟩

/-- The name of the program. -/
def program : String := "harbor"

/-- What the program is. -/
def about : String := "Cluster package manager"

/-- The options that all commands have. -/
def globalFlags : List Flag :=
  [⟨"config", some "CONFIG", some "HARBOR_CONFIG", false, true,
     "Settings file (defaults to <config dir>/harbor/harbor.toml)"⟩,
   .text "consul" "CONSUL" (some "HARBOR_CONSUL") "Consul HTTP address",
   .text "marathon" "MARATHON" (some "HARBOR_MARATHON") "Marathon URL",
   .text "mesos" "MESOS" (some "HARBOR_MESOS") "Mesos master URL",
   ⟨"zookeeper", some "ZOOKEEPER", some "HARBOR_ZOOKEEPER", true, false,
     "ZooKeeper servers, comma separated"⟩,
   .text "log-level" "LOG_LEVEL" (some "HARBOR_LOG_LEVEL") "Log filter when RUST_LOG is unset",
   .switch "log-json" "Emit logs as JSON"]

/-- The option that asks for a page of help. -/
def helpFlag : Flag := .switch "help" "Print help"

/-- The commands. -/
def forms : List Form :=
  [⟨"repositories", [], "List catalog repositories", none, []⟩,
   ⟨"packages", [], "List catalog packages", none, []⟩,
   ⟨"package", [], "Show one package", some "NAME", []⟩,
   ⟨"install", [], "Install a package", some "NAME",
     [.text "version" "VERSION" none "Package version (defaults to the current version)",
      .text "id" "ID" none "Scheduler app id",
      .text "config" "CONFIG" none "Configuration overrides as a JSON object"]⟩,
   ⟨"uninstall", ["rm"], "Uninstall a package", some "NAME",
     [.text "id" "ID" none
       "Scheduler app id, required when the package is installed more than once"]⟩,
   ⟨"installed", [], "List installed packages", none, []⟩,
   ⟨"frameworks", [], "List resource-manager frameworks", none,
     [.switch "completed" "Include completed frameworks"]⟩,
   ⟨"teardown", [], "Shut down a framework by id", some "FRAMEWORK_ID", []⟩,
   ⟨"watch", [], "Poll the pending-install queue until interrupted", none, []⟩]

/-- The name of the command that prints pages of help. -/
def helpCommand : String := "help"

/-- What the command that prints pages of help does. -/
def helpAbout : String := "Print this message or the help of the given subcommand(s)"

/-- The command of a name. -/
def form? (name : String) : Option Form :=
  forms.find? fun f => f.name == name || f.aliases.contains name

/-- The options of a command: its own, and those of all commands whose names it does not use. -/
def Form.allFlags (f : Form) : List Flag :=
  f.flags ++ globalFlags.filter fun g => !f.flags.any (·.name == g.name)

end ClusterPackages.CommandLine

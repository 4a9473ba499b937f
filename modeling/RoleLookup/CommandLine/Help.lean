/-!
# Help pages

* `Page`, the help on a command: what it does, how it is used, and tables of what can be given;
* `Page.text`, the page with the second columns of each table in line;
* the pages of the program and of its commands.
-/

namespace RoleLookup.CommandLine

/-- A titled table of two columns. -/
structure Table where
  title : String
  rows : List (String × String)
  deriving Repr

/-- The help on a command. -/
structure Page where
  about : String
  usage : String
  tables : List Table
  deriving Repr

/-- Lines of a table. -/
def Table.text (t : Table) : String :=
  let width := (t.rows.map (·.1.length)).foldl max 0
  let line (row : String × String) : String :=
    "  " ++ row.1 ++ String.ofList (List.replicate (width - row.1.length) ' ') ++ "  " ++ row.2 ++
      "\n"
  t.title ++ ":\n" ++ String.join (t.rows.map line)

/-- Text of a page. -/
def Page.text (p : Page) : String :=
  p.about ++ "\n\nUsage: " ++ p.usage ++ "\n" ++ String.join (p.tables.map fun t => "\n" ++ t.text)

/-! ### Commands -/

/-- Name that the program is called by. -/
def programName : String := "tiny-roles"

/-- Name and version of the program. -/
def versionText : String := "tiny_roles_main 0.3.0\n"

/-- File with the configuration, if no other one is given. -/
def defaultConfiguration : String := "/etc/tiny-roles/config.yml"

/-- A command, as it is typed. -/
inductive Command
  | lookup
  | health
  | watch
  | help
  deriving DecidableEq, Repr

namespace Command

/-- All commands. -/
def all : List Command := [.lookup, .health, .watch, .help]

/-- Name of a command. -/
def name : Command → String
  | .lookup => "lookup"
  | .health => "health"
  | .watch => "watch"
  | .help => "help"

/-- What a command does. -/
def about : Command → String
  | .lookup => "Print the roles of a user"
  | .health => "Run all health checks once"
  | .watch => "Report health periodically until terminated"
  | .help => "Print this message or the help of the given subcommand(s)"

/-- The command of a name. -/
def ofName? (s : String) : Option Command := all.find? (·.name == s)

/-- The options of a command alone. -/
def helpTable : Table := ⟨"Options", [("-h, --help", "Print help")]⟩

/-- The help on a command. -/
def page (c : Command) : Page :=
  let usage := programName ++ " " ++ c.name
  match c with
  | .lookup => ⟨c.about, usage ++ " <USER>", [⟨"Arguments", [("<USER>", "")]⟩, helpTable]⟩
  | .health | .watch => ⟨c.about, usage, [helpTable]⟩
  | .help =>
    ⟨c.about, usage ++ " [COMMAND]...",
      [⟨"Arguments", [("[COMMAND]...", "Print help for the subcommand(s)")]⟩]⟩

end Command

/-- The help on the whole program. -/
def mainPage : Page :=
  ⟨"Tiny Role Resolver", programName ++ " [OPTIONS] <COMMAND>",
    [⟨"Commands", Command.all.map fun c => (c.name, c.about)⟩,
      ⟨"Options",
        [("-c, --config <PATH>",
            "The config file to run with [default: " ++ defaultConfiguration ++ "]"),
          ("-v, --verbose...", "Log more until the configuration is read. Repeat for more"),
          ("-h, --help", "Print help"), ("-V, --version", "Print version")]⟩]⟩

end RoleLookup.CommandLine

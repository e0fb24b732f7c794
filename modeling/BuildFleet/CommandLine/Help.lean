/-!
# Help texts
-/
namespace BuildFleet.CommandLine

def programHelp : String :=
"Create remote build instances in parallel, set them up, and track them in groups

Usage: gomote <COMMAND>

Commands:
  create  Create one or more instances of a builder type
  help    Print this message or the help of the given subcommand(s)

Options:
  -h, --help     Print help
  -V, --version  Print version
"

/-- The help of the create command, which goes by the given name. -/
def createHelp (name : String) : String :=
"Create one or more instances of a builder type

Usage: " ++ name ++ " [OPTIONS] [BUILDER_TYPE]

Arguments:
  [BUILDER_TYPE]  Builder type to create, e.g. linux-amd64

Options:
      --status[=<STATUS>]  Print regular status updates while waiting [default: true] [possible values: true, false]
      --count <COUNT>      Number of instances to create [default: 1]
      --setup              Set up the instance by pushing GOROOT and building the Go toolchain
      --new-group <NAME>   Also create a new group and add the new instances to it
      --all-or-nothing     Only save the group if every instance was created and set up
      --legacy             Create through the coordinator instead of the gomote service
  -h, --help               Print help
"

def helpHelp : String :=
"Print this message or the help of the given subcommand(s)

Usage: gomote help [COMMAND]...

Arguments:
  [COMMAND]...  Print help for the subcommand(s)
"

def version : String := "gomote 0.1.0\n"

/-- The usage of the create command, shown when it is used without a builder type. -/
def createUsage : String :=
  "create usage: gomote create [create-opts] <type>\n" ++ createHelp "create"

end BuildFleet.CommandLine

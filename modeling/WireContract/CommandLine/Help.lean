import WireContract.Project.Sample

namespace WireContract
namespace Help

def version : String := "apiguard 0.1.0\n"

def program : String := Sample.lines
  [ "Developer CLI for apiguard - compile definitions and check requests",
    "",
    "Usage: apiguard [OPTIONS] <COMMAND>",
    "",
    "Commands:",
    "  init     Initialize a new project with a sample definition document",
    "  compile  Compile the definition document into check models",
    "  check    Check a sample request against an operation",
    "  status   Show project status",
    "  help     Print this message or the help of the given subcommand(s)",
    "",
    "Options:",
    "  -c, --config <CONFIG>  Configuration file or project directory [default: apiguard.yaml]",
    "  -v, --verbose          Enable verbose logging",
    "  -h, --help             Print help",
    "  -V, --version          Print version" ]

def ofCommand (name : String) : String :=
  match name with
  | "init" => Sample.lines
    [ "Initialize a new project with a sample definition document",
      "",
      "Usage: apiguard init [OPTIONS] [PATH]",
      "",
      "Arguments:",
      "  [PATH]  Directory to initialize (defaults to current directory) [default: .]",
      "",
      "Options:",
      "  -n, --name <NAME>  Project name (defaults to directory name)",
      "  -h, --help         Print help" ]
  | "compile" => Sample.lines
    [ "Compile the definition document into check models",
      "",
      "Usage: apiguard compile [OPTIONS]",
      "",
      "Options:",
      "  -o, --operation <OPERATION>  Print one operation's check model",
      "  -h, --help                   Print help" ]
  | "check" => Sample.lines
    [ "Check a sample request against an operation",
      "",
      "Usage: apiguard check --operation <OPERATION> --request <REQUEST>",
      "",
      "Options:",
      "  -o, --operation <OPERATION>  Operation id",
      "  -r, --request <REQUEST>      JSON file with \x60query\x60, \x60params\x60, \x60headers\x60 and \x60body\x60",
      "  -h, --help                   Print help" ]
  | "status" => Sample.lines
    [ "Show project status",
      "",
      "Usage: apiguard status",
      "",
      "Options:",
      "  -h, --help  Print help" ]
  | _ => Sample.lines
    [ "Print this message or the help of the given subcommand(s)",
      "",
      "Usage: apiguard help [COMMAND]...",
      "",
      "Arguments:",
      "  [COMMAND]...  Print help for the subcommand(s)" ]

def text (command : Option String) : String := (command.map ofCommand).getD program

end Help
end WireContract

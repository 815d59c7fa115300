import Keyscan.CommandLine.Arguments

/-!
What the command line says about itself: the help text, the version, and what is wrong with arguments
that make no command.
-/

set_option autoImplicit false

namespace Keyscan.CommandLine

/-- The help text, one option a line. -/
def help : String :=
  "\n".intercalate
    [ "Typed scans of a key/value store without a schema",
      "",
      "Usage: keyscan <COMMAND> --entity <NAME> [OPTIONS]",
      "",
      "Commands:",
      "  compile  Print the statement and the bindings of a scan",
      "  explain  Print what a scan compiles to, or why it is rejected",
      "  query    Run a scan over the tables of a JSON file, one row a line",
      "",
      "Options:",
      "  --config <PATH>     Configuration file [default: ./aeroquery.json]",
      "  --entity <NAME>     Entity to scan",
      "  --page-size <SIZE>  Page size asked of the store",
      "  --no-paginate       Read the first page only",
      "  --data <PATH>       Tables to scan (query)",
      "  --resume <TOKEN>    Token of an earlier run to go on from (query)",
      "  -h, --help          Print this text",
      "  -V, --version       Print the version" ]

/-- The program with its version. -/
def version : String := "keyscan 0.1.0"

namespace UsageError

/-- The text that answers the arguments. -/
def message : UsageError → String
  | .help => CommandLine.help
  | .version => CommandLine.version
  | .noArguments => CommandLine.help
  | .invalidCommand => "error: there is no such command"
  | .missingRequired => "error: a required option is missing"
  | .unknownArgument => "error: unexpected argument"
  | .invalidNumber => "error: the page size is not a number of 32 bits"
  | .missingValue => "error: an option lacks its value"
  | .unexpectedValue => "error: an option that takes no value has one"
  | .repeated => "error: an option is given twice"

/-- Whether the arguments ask for the text that they get. -/
def isQuestion : UsageError → Bool
  | .help | .version => true
  | _ => false

end UsageError

end Keyscan.CommandLine

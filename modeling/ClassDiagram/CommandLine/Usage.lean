import ClassDiagram.CommandLine.Options
import ClassDiagram.Drawing.Renderer

/-! # Usage

What the program says when reading its arguments ends without options.
-/

namespace ClassDiagram

namespace Program

def versionText : String :=
  name ++ " " ++ version ++ "\n"

def usageText : String :=
  "Usage: " ++ name ++ " [OPTIONS] <RECORD_FILE>\n"

def helpText : String :=
  "Render class record files as PlantUML or yUML class diagrams\n\n" ++ usageText ++
  "\nOptions:\n" ++
  "  -n, --notation <NOTATION>  Output notation (plantuml|yuml), yuml if not given\n" ++
  "      --ignore <NAME>        Simple name of an entity to leave out; may be repeated\n" ++
  "  -o, --output <OUTPUT>      Output file for the diagram (- for the standard output)\n" ++
  "      --strict               Fail when a record line is malformed\n" ++
  "  -v, --verbose              Say more on the standard error stream\n" ++
  "      --log-level <LEVEL>    trace, debug, info, warn or error\n" ++
  "      --log-format <FORMAT>  compact, pretty or json\n" ++
  "  -h, --help                 Print help\n" ++
  "  -V, --version              Print version\n"

end Program

namespace UsageError

def message : UsageError → String
  | unknownArgument => "unexpected argument"
  | invalidValue => "invalid or missing value for an argument"
  | repeatedArgument => "an argument cannot be used multiple times"
  | unexpectedValue => "unexpected value for a flag"
  | missingInput => "the record file was not provided"

end UsageError

end ClassDiagram

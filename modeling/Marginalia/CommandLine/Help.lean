import Marginalia.Text

/-!
# What the program says about itself

## Main definitions

* `CommandLine.Topic`, `CommandLine.Topic.text` — the subjects of help.
* `CommandLine.versionLine` — the name and version of the program.
-/

namespace Marginalia
namespace CommandLine

/-- What help is about. -/
inductive Topic where
  /-- The program as a whole. -/
  | program
  /-- Rendering files. -/
  | render
  /-- Showing the sections of a file. -/
  | parse
  /-- Listing the themes. -/
  | themes
  /-- Help itself. -/
  | help
  deriving DecidableEq, Repr

/-- The line for the flag that is known everywhere, with the width of the names before it. -/
def verboseLine (width : Nat) : String :=
  "  -v, --verbose..." ++ String.ofList (List.replicate width ' ') ++
    "Increase log verbosity (repeatable)\n"

/-- The line for the flag that asks for help. -/
def helpLine (width : Nat) : String :=
  "  -h, --help      " ++ String.ofList (List.replicate width ' ') ++ "Print help\n"

/-- The line for the marker. -/
def markerLine : String :=
  "  -m, --marker <MARKER>  " ++
    "Line-comment marker (defaults to one chosen by file extension)\n"

/-- The help on a subject. -/
def Topic.text : Topic → Text
  | .program =>
    ("Pair source comments with their code as HTML\n\n" ++
      "Usage: lit [OPTIONS] <COMMAND>\n\n" ++
      "Commands:\n" ++
      "  render  Render source files to HTML\n" ++
      "  parse   Print the sections of a source file as JSON\n" ++
      "  themes  List the available highlighting themes\n" ++
      "  help    Print this message or the help of the given subcommand(s)\n\n" ++
      "Options:\n" ++ verboseLine 2 ++ helpLine 2 ++
      "  -V, --version     Print version\n").toList
  | .render =>
    ("Render source files to HTML\n\n" ++
      "Usage: lit render [OPTIONS] <FILE>...\n\n" ++
      "Arguments:\n" ++
      "  <FILE>...  Source files to render\n\n" ++
      "Options:\n" ++
      "  -o, --output <PATH>    Write HTML here instead of stdout\n" ++
      verboseLine 7 ++ markerLine ++
      "      --plain            Escape comments instead of rendering them as Markdown\n" ++
      "      --no-highlight     Escape code instead of syntax highlighting it\n" ++
      "      --standalone       Emit a complete HTML page\n" ++
      "      --theme <NAME>     Highlighting theme for standalone pages\n" ++
      helpLine 7).toList
  | .parse =>
    ("Print the sections of a source file as JSON\n\n" ++
      "Usage: lit parse [OPTIONS] <FILE>\n\n" ++
      "Arguments:\n" ++
      "  <FILE>  Source file to parse\n\n" ++
      "Options:\n" ++ markerLine ++ verboseLine 7 ++ helpLine 7).toList
  | .themes =>
    ("List the available highlighting themes\n\n" ++
      "Usage: lit themes [OPTIONS]\n\n" ++
      "Options:\n" ++ verboseLine 2 ++ helpLine 2).toList
  | .help =>
    ("Print this message or the help of the given subcommand(s)\n\n" ++
      "Usage: lit help [COMMAND]...\n\n" ++
      "Arguments:\n" ++
      "  [COMMAND]...  Print help for the subcommand(s)\n").toList

/-- The name and version of the program. -/
def versionLine : Text := "lit 0.1.0\n".toList

/-- What is said when a command line makes no sense. -/
def misuseText : Text :=
  ("error: invalid arguments\n\n" ++
    "Usage: lit [OPTIONS] <COMMAND>\n\n" ++
    "For more information, try '--help'.\n").toList

end CommandLine
end Marginalia

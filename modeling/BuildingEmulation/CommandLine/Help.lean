import BuildingEmulation.Api.Encode
import BuildingEmulation.CommandLine.Arguments

/-!
# Help

What the program says about itself.
-/
namespace BuildingEmulation.CommandLine

/-- The name and the version of the program. -/
def versionLine : String := "r-bemd R-BEM " ++ Api.version

def serveTitle : String := "Serve the test-case API until interrupted"

def runTitle : String := "Run the baseline scenario to its end and export results"

def checkTitle : String := "Validate a signal exchange metadata document"

def helpTitle : String := "Print this message or the help of the given subcommand(s)"

/-- The explanation of a topic. -/
def Topic.lines : Topic → List String
  | program =>
    ["R-BEM building emulation daemon", "", "Usage: r-bemd [OPTIONS] [COMMAND]", "", "Commands:",
     "  serve           " ++ serveTitle, "  run             " ++ runTitle,
     "  check-metadata  " ++ checkTitle, "  help            " ++ helpTitle, "", "Options:",
     "      --config <FILE>  Path to configuration file", "  -h, --help           Print help",
     "  -V, --version        Print version"]
  | serve => [serveTitle, "", "Usage: r-bemd serve", "", "Options:", "  -h, --help  Print help"]
  | run =>
    [runTitle, "", "Usage: r-bemd run [OPTIONS]", "", "Options:",
     "      --output <DIR>  [default: " ++ defaultOutput ++ "]", "  -h, --help          Print help"]
  | checkMetadata =>
    [checkTitle, "", "Usage: r-bemd check-metadata <FILE>", "", "Arguments:", "  <FILE>  ", "",
     "Options:", "  -h, --help  Print help"]
  | help =>
    [helpTitle, "", "Usage: r-bemd help [COMMAND]...", "", "Arguments:",
     "  [COMMAND]...  Print help for the subcommand(s)"]

end BuildingEmulation.CommandLine

import BrowserFlow.Command.Arguments

/-!
# Help of the command line

The texts that tell how the command is used: a short one for whoever made a
mistake, and a long one for whoever asks.
-/

namespace BrowserFlow.Command

def paragraph (lines : List String) : String := String.join (lines.map fun line => line ++ "\n")

def usage : String := paragraph [
  "usage: flowscript-compile [-h] [--no-headless] [--name NAME] [--out DIR]",
  "                          [--print] [-v]",
  "                          flow.json"]

def purpose : String := paragraph [
  "Compile a FlowScript flow document to a Selenium script."]

def argumentList : String := paragraph [
  "positional arguments:",
  "  flow.json      Path to the flow document.",
  "",
  "options:",
  "  -h, --help     show this help message and exit",
  "  --no-headless  Emit the headless directive commented out.",
  "  --name NAME    Script name used for the output file.",
  "  --out DIR      Output directory (default: .).",
  "  --print        Print generated source to stdout instead of writing a file.",
  "  -v, --verbose  Enable debug logging."]

def manual : String := paragraph [
  "flowscript-compile — compile a saved flow document into a Selenium script",
  "=========================================================================",
  "",
  "Usage",
  "-----",
  "    flowscript-compile <flow.json> [options]",
  "",
  "Options",
  "-------",
  "    --no-headless       Comment out the headless directive (visible browser)",
  "    --name NAME         Script name; the output file is <slug>.py",
  "                        (default: the document's file stem)",
  "    --out  <dir>        Output directory (default: current directory)",
  "    --print             Print the generated source instead of writing a file",
  "    -v, --verbose       Debug logging (linearization and emission trace)",
  "",
  "Examples",
  "--------",
  "    flowscript-compile login-flow.json",
  "    flowscript-compile login-flow.json --no-headless --out scripts/",
  "    flowscript-compile login-flow.json --print"]

def helpText : String := "\n".intercalate [usage, purpose, argumentList, manual]

def refusal (fault : UsageFault) : String :=
  usage ++ s!"flowscript-compile: error: {fault.message}\n"

end BrowserFlow.Command

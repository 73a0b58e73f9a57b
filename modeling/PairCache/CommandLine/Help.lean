import PairCache.CommandLine.Read

/-!
What the program says of its command line: the help text, and what is wrong with arguments.
-/
namespace PairCache.CommandLine

def Key.about : Key → String
  | .first => "First input"
  | .second => "Second input"
  | .flag => "Overrides the derived flag"
  | .count => "Overrides the derived count"
  | .label => "Overrides the derived label"
  | .base => "Base parameter; a value that is not JSON is a text. May be repeated"
  | .times => "Number of identical requests to send"
  | .thenFlag => "Sends one more request with the flag set to this value"
  | .reuse => "Reuses stored connections"
  | .maxRuns => "Number of runs that may be under way at once"
  | .json => "Prints the report as JSON instead of text"
  | .logJson => "Writes logs as JSON lines"

def helpLine (title about : String) : String := "  " ++ title ++ "\n          " ++ about

def Key.help (k : Key) : String :=
  helpLine k.title (k.about ++ (k.environmentName?.map fun v => " [env: " ++ v ++ "]").getD "")

def helpText : String :=
  "\n".intercalate
    (["Runs a two-input plugin through the connection cache", "",
      "Usage: tandem [OPTIONS] --first <FIRST> --second <SECOND>", "", "Options:"] ++
      Key.all.map Key.help ++
      [helpLine "-h, --help" "Prints help", helpLine "-V, --version" "Prints the version", ""])

def Stop.describe : Stop → String
  | .unknownArgument a => "unexpected argument '" ++ a ++ "' found"
  | .invalidValue key "" => "a value is required for '" ++ key.title ++ "' but none was supplied"
  | .invalidValue key v =>
    "invalid value '" ++ v ++ "' for '" ++ key.title ++ "'\n  [possible values: true, false]"
  | .unreadableValue key v m => "invalid value '" ++ v ++ "' for '" ++ key.title ++ "': " ++ m
  | .repeated key => "the argument '" ++ key.title ++ "' cannot be used multiple times"
  | .unneededValue title v =>
    "unexpected value '" ++ v ++ "' for '" ++ title ++ "' found; no more were expected"
  | .missing keys =>
    "the following required arguments were not provided:\n  " ++
      "\n  ".intercalate (keys.map Key.title)
  | .help => helpText
  | .version => "tandem " ++ PairCache.version

end PairCache.CommandLine

import ClientScribe.CommandLine.Command

/-!
Help: what the program and its commands take.
-/

namespace ClientScribe.CommandLine

/-- A word and its explanation, in two columns. -/
def helpLine (word explanation : String) : String :=
  let room := 26 - word.length
  "  " ++ word ++ String.ofList (List.replicate room ' ') ++ explanation

def Setting.help? : Setting → String
  | .help => helpLine "--help" "Show this message and exit."
  | .verbose => helpLine "-v, --verbose" "Show debug logging."
  | .output => helpLine "-o, --output PATH" "Where to write the result."
  | .fixes => helpLine "--fixes FILE" "Manual overrides keyed by reference id."
  | .workers => helpLine "--workers NUMBER" "Concurrent page downloads."
  | .references => helpLine "--references FILE" "Where to save the references JSON."
  | .clientName =>
    helpLine "--client-name NAME" "Class name of the HTTP client used by API modules."
  | .clientPath =>
    helpLine "--client-path PATH" "Client module path, relative to the output directory."

def optionsHelp (rules : List (OptionRule Setting)) : List String :=
  ["", "Options:"] ++ rules.map fun r => r.sets.help?

def HelpTopic.help : HelpTopic → List String
  | .program =>
    ["Usage: client-scribe [OPTIONS] COMMAND [ARGS]...", "",
      "  Generate typed API clients from reference documentation."]
      ++ optionsHelp Setting.programRules
      ++ ["", "Commands:",
        helpLine "extract" "Extract references from the documentation pages of products.",
        helpLine "generate" "Generate sources from a references JSON file.",
        helpLine "run" "Extract references, then generate sources."]
  | .extract =>
    "Usage: client-scribe extract [OPTIONS] PRODUCTS" :: optionsHelp Setting.extractRules
  | .generate =>
    "Usage: client-scribe generate [OPTIONS] REFERENCES" :: optionsHelp Setting.generateRules
  | .run => "Usage: client-scribe run [OPTIONS] PRODUCTS" :: optionsHelp Setting.runRules

end ClientScribe.CommandLine

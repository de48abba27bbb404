import ClientScribe.Client.Api
import ClientScribe.CommandLine.Options
import ClientScribe.Disk.Basic
import ClientScribe.Text.Integer

/-!
Commands: what the arguments of the program ask for.  Before a command starts its arguments are
checked, paths against the disk: the options in the order in which they were given, then the
argument that is no option, then what is missing or too much.
-/

namespace ClientScribe.CommandLine

inductive Command where
  /-- Reads documentation pages and saves the references found. -/
  | extract (products output : FilePath) (fixes : Option FilePath)
  /-- Writes a client for saved references. -/
  | generate (references output : FilePath) (client : Client.HttpClient)
  /-- Does both. -/
  | run (products output references : FilePath) (fixes : Option FilePath)
    (client : Client.HttpClient)

/-- The commands by name, for help. -/
inductive HelpTopic where
  | program
  | extract
  | generate
  | run
deriving DecidableEq, Repr

/-- What the arguments ask for. -/
inductive Invocation where
  | help (topic : HelpTopic)
  | command (verbose : Bool) (c : Command)

inductive Setting where
  | help
  | verbose
  | output
  | fixes
  | workers
  | references
  | clientName
  | clientPath
deriving DecidableEq, Repr

namespace Setting

def flag (sets : Setting) (spellings : List String) : OptionRule Setting :=
  ⟨spellings, sets, false⟩

def valued (sets : Setting) (spellings : List String) : OptionRule Setting :=
  ⟨spellings, sets, true⟩

/-- The options in front of a command. -/
def programRules : List (OptionRule Setting) :=
  [verbose.flag ["-v", "--verbose"], help.flag ["--help"]]

def extractRules : List (OptionRule Setting) :=
  [output.valued ["-o", "--output"], fixes.valued ["--fixes"], workers.valued ["--workers"],
   help.flag ["--help"]]

def clientRules : List (OptionRule Setting) :=
  [clientName.valued ["--client-name"], clientPath.valued ["--client-path"]]

def generateRules : List (OptionRule Setting) :=
  [output.valued ["-o", "--output"], help.flag ["--help"]] ++ clientRules

def runRules : List (OptionRule Setting) :=
  extractRules ++ references.valued ["--references"] :: clientRules

end Setting

/-! ### Values -/

/-- Where references are saved unless another file is named. -/
def usualReferences : String := "references.json"

/-- Whether a path as it is written can only lead to a folder. -/
def namesFolder (path : String) : Bool :=
  match (Text.splitOn '/' path.toList).reverse with
  | last :: _ :: _ => !FilePath.isSegment last
  | _ => false

/-- Where a path as it is written leads, if something is there. -/
def existing (d : Disk) (path : String) : Option Spot :=
  if path.isEmpty || Disk.maxPath < path.utf8ByteSize then none
  else
    match d.find (FilePath.ofText path) with
    | .ok (.folder l) => some (.folder l)
    | .ok (.file l content) => if namesFolder path then none else some (.file l content)
    | _ => none

/-- What a path has to lead to. -/
inductive Target where
  | presentFile
  /-- A file that may exist. -/
  | file
  /-- A folder that may exist. -/
  | folder
  | anything
deriving DecidableEq, Repr

def Target.check (target : Target) (d : Disk) (path : String) : Except UsageFault Unit :=
  if path.toList.contains '\x00' then .error .zeroInPath
  else
    match target, existing d path with
    | .presentFile, none => .error (.noFile path)
    | .presentFile, some (.folder _) | .file, some (.folder _) => .error (.notFile path)
    | .folder, some (.file _ _) => .error (.notFolder path)
    | _, _ => .ok ()

/-- How many pages may be fetched at a time.  The number makes no difference to the result. -/
def checkWorkers (text : String) : Except UsageFault Unit :=
  match Text.integer? text.toList with
  | some n => if 1 ≤ n then .ok () else .error (.badCount text)
  | none => .error (.badCount text)

/-- Checks the value of an option, where the output of the command is `output`. -/
def Setting.check (output : Target) (d : Disk) (value : String) : Setting → Except UsageFault Unit
  | .output => output.check d value
  | .fixes => Target.presentFile.check d value
  | .references => Target.file.check d value
  | .workers => checkWorkers value
  | .help | .verbose | .clientName | .clientPath => .ok ()

/-! ### Commands -/

/-- The path that an option gives. -/
def pathOf? (given : Arguments Setting) (setting : Setting) : Option FilePath :=
  (given.value? setting).map FilePath.ofText

def client (given : Arguments Setting) : Client.HttpClient :=
  { name := (given.value? .clientName).getD Client.HttpClient.usual.name
    path := (given.value? .clientPath).getD Client.HttpClient.usual.path }

def extract (source : FilePath) (given : Arguments Setting) : Command :=
  .extract source ((pathOf? given .output).getD (FilePath.ofText usualReferences))
    (pathOf? given .fixes)

/-- The folder for the client; the option that names it is required. -/
def outputFolder (given : Arguments Setting) : FilePath :=
  (pathOf? given .output).getD (FilePath.ofText "")

def generate (source : FilePath) (given : Arguments Setting) : Command :=
  .generate source (outputFolder given) (client given)

def run (source : FilePath) (given : Arguments Setting) : Command :=
  let output := outputFolder given
  .run source output
    ((pathOf? given .references).getD (output.join (FilePath.ofText usualReferences)))
    (pathOf? given .fixes) (client given)

/-- How the arguments of a command are read. -/
structure CommandRule where
  topic : HelpTopic
  options : List (OptionRule Setting)
  /-- The argument that is no option. -/
  argument : String
  source : Target
  output : Target
  outputRequired : Bool
  command : FilePath → Arguments Setting → Command

def commandRules : List (String × CommandRule) :=
  [("extract",
    { topic := .extract, options := Setting.extractRules, argument := "PRODUCTS_PATH",
      source := .presentFile, output := .anything, outputRequired := false, command := extract }),
   ("generate",
    { topic := .generate, options := Setting.generateRules, argument := "REFERENCES_PATH",
      source := .file, output := .folder, outputRequired := true, command := generate }),
   ("run",
    { topic := .run, options := Setting.runRules, argument := "PRODUCTS_PATH",
      source := .presentFile, output := .folder, outputRequired := true, command := run })]

/-- The command that arguments without a call for help make. -/
def CommandRule.commandOf (rule : CommandRule) (d : Disk) (given : Arguments Setting) :
    Except UsageFault Command := do
  for setting in given.order do
    setting.check rule.output d ((given.value? setting).getD "")
  match given.others with
  | [] => throw (.missing s!"argument '{rule.argument}'")
  | source :: others =>
    rule.source.check d source
    if rule.outputRequired && !given.has .output then throw (.missing "option '-o'")
    match others with
    | [] => return rule.command (FilePath.ofText source) given
    | extra :: _ => throw (.unexpected extra)

/-- The command with its own arguments. -/
def CommandRule.read (rule : CommandRule) (d : Disk) (verbose : Bool) (arguments : List String) :
    Except UsageFault Invocation := do
  let given ← Arguments.read rule.options true arguments
  if given.has .help then return .help rule.topic
  else return .command verbose (← rule.commandOf d given)

/-- A word that is no command.  Options that only a lone pair of hyphens kept from being read are
read now, so that help can still be asked for. -/
def unknownCommand (name : String) (arguments : List String) : Except UsageFault Invocation := do
  let given ← Arguments.read Setting.programRules false (name :: arguments)
  if given.has .help then return .help .program else .error (.noSuchCommand name)

/-- What the arguments of the program ask for. -/
def Invocation.ofArguments (d : Disk) (arguments : List String) : Except UsageFault Invocation := do
  let given ← Arguments.read Setting.programRules false arguments
  if given.has .help then return .help .program
  else
    match given.others with
    | [] => .error .noCommand
    | name :: rest =>
      match commandRules.lookup name with
      | some rule => rule.read d (given.has .verbose) rest
      | none => unknownCommand name rest

end ClientScribe.CommandLine

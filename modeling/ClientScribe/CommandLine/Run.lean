import ClientScribe.Client.Files
import ClientScribe.Collection
import ClientScribe.CommandLine.Command
import ClientScribe.Config

/-!
Running commands.  A command reads files, fetches pages, says what it does and writes files; a fault
ends it.  What was written before stays.
-/

namespace ClientScribe.CommandLine

/-- Faults that are not expected. -/
inductive Crash where
  /-- A file whose bytes are no text. -/
  | notText
  | document (fault : Yaml.Fault)
  | page (crash : PageCrash)
  | excess (excess : Json.Excess)
  | table (fault : Table.Fault)
  | zeroInName
  /-- A text, or the name of a file, that has no bytes. -/
  | unstorable
deriving DecidableEq, Repr

/-- Why a command ended early. -/
inductive Stop where
  | complaint (c : Complaint)
  | crash (c : Crash)
deriving DecidableEq, Repr

/-- What a command has done so far. -/
structure Session where
  disk : Disk
  /-- The lines said, first to last. -/
  output : List String
  notices : List Notice

/-- A part of a command. -/
abbrev Work := ExceptT Stop (StateM Session)

def complain {α : Type} (c : Complaint) : Work α := throw (.complaint c)

def crash {α : Type} (c : Crash) : Work α := throw (.crash c)

def say (line : String) : Work Unit :=
  if Text.isStorable line then modify fun s => { s with output := s.output ++ [line] }
  else crash .unstorable

/-- What a configuration file gives. -/
def expect {α : Type} (file : FilePath) : Except ConfigFault α → Work α
  | .ok a => pure a
  | .error fault =>
    match fault.complaint? file.text, fault with
    | some c, _ => complain c
    | none, .document fault => crash (.document fault)
    | none, _ => crash .notText

/-- Ends a command with a fault met at a path; `verb` says what was tried. -/
def giveUp {α : Type} (verb : String) (p : FilePath) (fault : PathFault) : Work α :=
  match fault.fault with
  | .zeroInName => crash .zeroInName
  | .unstorable => crash .unstorable
  | _ => complain (.plain s!"Cannot {verb} {p.text}: {fault.message}")

/-- Writes a file. -/
def save [Device] (p : FilePath) (text : String) : Work Unit := do
  let (disk, fault) := (← get).disk.saveText p text
  modify fun s => { s with disk }
  match fault with
  | none => pure ()
  | some fault => giveUp "write" p fault

/-- The text of a file. -/
def readText (p : FilePath) : Work String := do
  match (← get).disk.read p with
  | .error fault => giveUp "read" p fault
  | .ok bytes =>
    match Text.ofBytes? bytes with
    | some text => pure text
    | none => crash .notText

/-- What is said of overrides that do not fit. -/
def badOverride (fixes : Option FilePath) (issues : List Issue) : Complaint :=
  let file := (fixes.map FilePath.text).getD "None"
  ⟨s!"Invalid override in {file}", some (Issue.summary issues)⟩

/-- Fetches the pages of the products and extracts their references. -/
def collectReferences [Interpreter] (web : Web) (products : FilePath) (fixes : Option FilePath) :
    Work (List Reference) := do
  let d := (← get).disk
  let ps ← expect products (Config.products (d.read products))
  let overrides ← expect (fixes.getD products) (Config.overrides (fixes.map d.read))
  let pages := (Product.jobs ps).length
  say s!"Fetching {pages} documentation pages for {ps.length} products..."
  let found := collect web ⟨overrides, ExtractionRules.usualProducts⟩ ps
  modify fun s => { s with notices := s.notices ++ found.notices }
  match found.result with
  | .ok references => pure references
  | .error (.page fault) => crash (.page fault)
  | .error (.extraction (.excess excess)) => crash (.excess excess)
  | .error (.extraction (.table fault)) => crash (.table fault)
  | .error (.extraction (.override issues)) => complain (badOverride fixes issues)

def saveReferences [Device] (references : List Reference) (p : FilePath) : Work Unit := do
  save p (Reference.dump references)
  say s!"Saved {references.length} references to {p.text}"

def readReferences (p : FilePath) : Work (List Reference) := do
  match Reference.load (← readText p) with
  | .ok references => pure references
  | .rejected issues =>
    complain ⟨s!"Invalid references file {p.text}", some (Issue.summary issues)⟩

/-- Writes files below a folder. -/
def saveFiles [Device] (output : FilePath) : Client.Files → Work Unit
  | [] => pure ()
  | (name, content) :: rest => do
    let p := output.join (FilePath.ofText name)
    save p content
    say s!"  Created {p.text}"
    saveFiles output rest

def writeClient [Device] (client : Client.HttpClient) (references : List Reference)
    (output : FilePath) : Work Unit := do
  let files := Client.files client references
  saveFiles output files
  say s!"Generated {files.length} files in {output.text}"

def Command.work [Interpreter] [Device] (web : Web) : Command → Work Unit
  | .extract products output fixes => do
    let references ← collectReferences web products fixes
    saveReferences references output
  | .generate source output client => do
    say s!"Reading references from {source.text}..."
    let references ← readReferences source
    say s!"Found {references.length} references."
    writeClient client references output
  | .run products output target fixes client => do
    let references ← collectReferences web products fixes
    saveReferences references target
    say "Generating sources..."
    writeClient client references output

/-- How the program ended. -/
inductive Ending where
  | done
  | help (topic : HelpTopic)
  | usage (fault : UsageFault)
  | stopped (why : Stop)

/-- What the program leaves to its caller. -/
def Ending.exitCode : Ending → Nat
  | .done | .help _ => 0
  | .stopped _ => 1
  | .usage _ => 2

/-- Runs the program. -/
def perform [Interpreter] [Device] (web : Web) (d : Disk) (arguments : List String) :
    Ending × Session :=
  let start : Session := ⟨d, [], []⟩
  match Invocation.ofArguments d arguments with
  | .error .zeroInPath => (.stopped (.crash .zeroInName), start)
  | .error fault => (.usage fault, start)
  | .ok (.help topic) => (.help topic, start)
  | .ok (.command _ c) =>
    match (c.work web).run start with
    | (.ok (), s) => (.done, s)
    | (.error why, s) => (.stopped why, s)

end ClientScribe.CommandLine

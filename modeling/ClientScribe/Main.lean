import ClientScribe.CommandLine.Help
import ClientScribe.CommandLine.Run

/-!
The program.  It takes in the files that its arguments name, runs the command on them, and puts the
changes back.  It has no network: every page fails to load.
-/

namespace ClientScribe.CommandLine

/-- A location as a path from the root. -/
def absolute (l : Location) : String := "/" ++ "/".intercalate l

/-- Takes in what is at a location. -/
def take (d : Disk) (l : Location) : IO Disk := do
  let path := (← IO.currentDir) / absolute l
  if ← path.isDir then return d.store l .folder
  else if ← path.pathExists then return d.store l (.file (← IO.FS.readBinFile path))
  else return d

/-- Takes in a folder with all that is in it. -/
partial def takeAll (d : Disk) (l : Location) : IO Disk := do
  let mut disk ← take d l
  let path := (← IO.currentDir) / absolute l
  if ← path.isDir then
    for child in ← path.readDir do
      disk ← takeAll disk (l ++ [child.fileName])
  return disk

/-- Takes in what is on the way to a path and below it. -/
def takePath (d : Disk) (p : FilePath) : IO Disk := do
  let mut disk := d
  let mut l := if p.root.isEmpty then d.home else []
  for segment in p.segments do
    l := if segment = ".." then l.dropLast else l ++ [segment]
    disk ← take disk l
  takeAll disk l

/-- The paths that an argument may name. -/
def pathsIn (argument : String) : List FilePath :=
  let value := (argument.toList.dropWhile (· ≠ '=')).drop 1
  [argument.toList, value, argument.toList.drop 2].filter (!·.isEmpty)
    |>.map fun cs => FilePath.ofText (String.ofList cs)

/-- The files that the arguments name. -/
def takeArguments (arguments : List String) : IO Disk := do
  let home := (FilePath.ofText (← IO.currentDir).toString).segments
  let mut disk : Disk := ⟨home, []⟩
  for n in List.range (home.length + 1) do
    disk ← take disk (home.take n)
  for p in FilePath.ofText usualReferences :: arguments.flatMap pathsIn do
    if p.segments.any (· ≠ "..") then disk ← takePath disk p
  return disk

/-- Puts back what a command changed. -/
def putBack (before after : Disk) : IO Unit := do
  for (l, stored) in after.entries do
    if !(before.entries.lookup l).any stored.same then
      match stored with
      | .folder => IO.FS.createDirAll (absolute l)
      | .file content => IO.FS.writeBinFile (absolute l) content

def Crash.message : Crash → String
  | .notText => "a file holds no text"
  | .document fault => fault.message
  | .page c => c.message
  | .excess e => e.message
  | .table fault => fault.message
  | .zeroInName => "embedded null byte"
  | .unstorable => "a text has no bytes"

def report : Ending → IO Unit
  | .done => pure ()
  | .help topic => topic.help.forM IO.println
  | .usage fault => IO.eprintln s!"Error: {fault.message}"
  | .stopped (.complaint c) => IO.eprintln s!"Error: {c.message}"
  | .stopped (.crash c) => IO.eprintln s!"Failure: {c.message}"

end ClientScribe.CommandLine

open ClientScribe CommandLine in
def main (arguments : List String) : IO UInt32 := do
  let before ← takeArguments arguments
  let (ending, session) := perform (fun _ => .error "no network") before arguments
  putBack before session.disk
  session.notices.forM fun notice => IO.eprintln notice.text
  session.output.forM IO.println
  report ending
  return UInt32.ofNat ending.exitCode

import ClientScribe.Disk.FilePath
import ClientScribe.Text.Quoted
import ClientScribe.Text.Surrogate

/-!
Files and folders.  A path is followed segment by segment from the working folder or the root, so a
segment behind something that is no folder leads nowhere, and `..` is the folder that holds the one
reached.  Nothing ever removes a file or a folder.  A file is emptied before it is written, so a
device that is full leaves a part of what was to be written, and nothing of what was there.  Who may
read and write what is left out: whoever asks may.
-/

namespace ClientScribe

/-- Why a file or a folder cannot be reached, made or written. -/
inductive DiskFault where
  | absent
  | exists
  | notFolder
  | isFolder
  | longName
  /-- No name holds the character with code zero. -/
  | zeroInName
  /-- A name or a text that has no bytes. -/
  | unstorable
  /-- A device that takes no more. -/
  | full
deriving DecidableEq, Repr

namespace DiskFault

def number : DiskFault → Nat
  | .absent => 2
  | .exists => 17
  | .notFolder => 20
  | .isFolder => 21
  | .longName => 36
  | .zeroInName => 22
  | .unstorable => 84
  | .full => 28

def reason : DiskFault → String
  | .absent => "No such file or directory"
  | .exists => "File exists"
  | .notFolder => "Not a directory"
  | .isFolder => "Is a directory"
  | .longName => "File name too long"
  | .zeroInName => "Invalid argument"
  | .unstorable => "Invalid or incomplete multibyte or wide character"
  | .full => "No space left on device"

end DiskFault

/-- A fault and the path that it was met at. -/
structure PathFault where
  fault : DiskFault
  path : FilePath
deriving DecidableEq, Repr

/-- A full device is not asked for a path, but for room in a file that is open. -/
def PathFault.message (f : PathFault) : String :=
  let path := if f.fault = .full then [] else ": ".toList ++ Text.quoted f.path.text.toList
  s!"[Errno {f.fault.number}] {f.fault.reason}" ++ String.ofList path

/-- The folders on the way from the root, and a name. -/
abbrev Location := List String

/-- What a location holds. -/
inductive Stored where
  | folder
  | file (content : ByteArray)

/-- Whether two locations hold the same. -/
def Stored.same : Stored → Stored → Bool
  | .folder, .folder => true
  | .file a, .file b => a.data == b.data
  | _, _ => false

structure Disk where
  /-- The working folder, in which relative paths start. -/
  home : Location
  /-- What is stored, with one entry for each location; the root needs none. -/
  entries : List (Location × Stored)

/-- How much a device takes of what is written to a file. -/
class Device where
  /-- How many bytes of a content are stored at a location until the device is full. -/
  taken : Disk → Location → ByteArray → Nat

/-- A device with room for everything. -/
instance Device.roomy : Device where
  taken _ _ content := content.size

/-- Where a path leads. -/
inductive Spot where
  | folder (place : Location)
  | file (place : Location) (content : ByteArray)
  /-- A name that is free in a folder. -/
  | free (place : Location)

namespace Disk

/-- The longest name, in bytes. -/
def maxName : Nat := 255

/-- The longest path, in bytes. -/
def maxPath : Nat := 4095

/-- One segment further. -/
def step (d : Disk) (spot : Spot) (segment : String) : Except DiskFault Spot :=
  match spot with
  | .file _ _ => .error .notFolder
  | .free _ => .error .absent
  | .folder l =>
    if segment = ".." then .ok (.folder l.dropLast)
    else if maxName < segment.utf8ByteSize then .error .longName
    else
      match d.entries.lookup (l ++ [segment]) with
      | some .folder => .ok (.folder (l ++ [segment]))
      | some (.file content) => .ok (.file (l ++ [segment]) content)
      | none => .ok (.free (l ++ [segment]))

/-- Where a path leads. -/
def find (d : Disk) (p : FilePath) : Except DiskFault Spot :=
  if !p.text.toList.all Text.isNameable then .error .unstorable
  else if p.text.toList.contains '\x00' then .error .zeroInName
  else if maxPath < p.text.utf8ByteSize then .error .longName
  else p.segments.foldlM d.step (.folder (if p.root.isEmpty then d.home else []))

def isFolder (d : Disk) (p : FilePath) : Bool :=
  match d.find p with
  | .ok (.folder _) => true
  | _ => false

/-- Puts something at a location; what was there keeps its place. -/
def store (d : Disk) (l : Location) (s : Stored) : Disk :=
  { d with
    entries :=
      if (d.entries.lookup l).isSome then
        d.entries.map fun e => if e.1 = l then (l, s) else e
      else d.entries ++ [(l, s)] }

/-- The content of a file. -/
def read (d : Disk) (p : FilePath) : Except PathFault ByteArray :=
  match d.find p with
  | .ok (.file _ content) => .ok content
  | .ok (.folder _) => .error ⟨.isFolder, p⟩
  | .ok (.free _) => .error ⟨.absent, p⟩
  | .error fault => .error ⟨fault, p⟩

/-- The part of a content that the device takes. -/
def part [Device] (d : Disk) (l : Location) (content : ByteArray) : ByteArray :=
  content.extract 0 (Device.taken d l content)

/-- Puts a content in place of what is stored at a location, as far as the device takes it. -/
def fill [Device] (d : Disk) (p : FilePath) (l : Location) (content : ByteArray) :
    Disk × Option PathFault :=
  let part := d.part l content
  (d.store l (.file part), if part.size < content.size then some ⟨.full, p⟩ else none)

/-- Writes a file, in place of the one that is there. -/
def write [Device] (d : Disk) (p : FilePath) (content : ByteArray) : Disk × Option PathFault :=
  match d.find p with
  | .ok (.file l _) | .ok (.free l) => d.fill p l content
  | .ok (.folder _) => (d, some ⟨.isFolder, p⟩)
  | .error fault => (d, some ⟨fault, p⟩)

/-- The disk after a change, or as it was if that failed. -/
def attempt (d : Disk) : Except PathFault Disk → Disk × Option PathFault
  | .ok changed => (changed, none)
  | .error fault => (d, some fault)

/-- Makes a folder in a folder that exists. -/
def makeFolder (d : Disk) (p : FilePath) : Except PathFault Disk :=
  match d.find p with
  | .ok (.free l) => .ok (d.store l .folder)
  | .ok _ => .error ⟨.exists, p⟩
  | .error fault => .error ⟨fault, p⟩

/-- Makes a folder unless it exists. -/
def ensureFolder (d : Disk) (p : FilePath) : Except PathFault Disk :=
  match d.makeFolder p with
  | .error fault => if fault.fault ≠ .absent && d.isFolder p then .ok d else .error fault
  | made => made

/-- Makes a folder and those above it, as far as they do not exist.  The segments of the path come
last first.  Folders that were made before a fault stay. -/
def ensureAll (root : String) : List String → Disk → Disk × Option PathFault
  | [], d => d.attempt (d.ensureFolder ⟨root, []⟩)
  | segment :: above, d =>
    let p : FilePath := ⟨root, (segment :: above).reverse⟩
    match d.ensureFolder p with
    | .error ⟨.absent, _⟩ =>
      match ensureAll root above d with
      | (d, none) => d.attempt (d.ensureFolder p)
      | failed => failed
    | made => d.attempt made

/-- Makes a folder and those above it, as far as they do not exist. -/
def ensureFolders (d : Disk) (p : FilePath) : Disk × Option PathFault :=
  ensureAll p.root p.segments.reverse d

/-- Writes a file in a folder that is made if need be. -/
def save [Device] (d : Disk) (p : FilePath) (content : ByteArray) : Disk × Option PathFault :=
  match d.ensureFolders p.parent with
  | (d, none) => d.write p content
  | failed => failed

/-- Writes a text in a folder that is made if need be.  A text that cannot be stored leaves an empty
file. -/
def saveText [Device] (d : Disk) (p : FilePath) (text : String) : Disk × Option PathFault :=
  if Text.isStorable text then d.save p text.toUTF8
  else
    match d.save p .empty with
    | (d, none) => (d, some ⟨.unstorable, p⟩)
    | failed => failed

/-- The files and their contents. -/
def files (d : Disk) : List (Location × ByteArray) :=
  d.entries.filterMap fun
    | (l, .file content) => some (l, content)
    | (_, .folder) => none

/-- The content of the file at a location. -/
def content? (d : Disk) (l : Location) : Option ByteArray := d.files.lookup l

end Disk

end ClientScribe

/-
A disk: directories and named devices, as far as a log needs them.

A name in a directory leads to a device by number, so a device that has been opened stays
reachable by its number after its name is gone.

A path is followed step by step: every step but the last has to lead to a directory, a single dot
leads nowhere and two dots lead back. What the last step may be depends on what is wanted.

* `Disk.place`: where the last step of a path is taken;
* `Disk.resolve`: what a path leads to;
* `Disk.makeDirectories`: creates a directory and those above it;
* `Disk.openAppend`: finds or creates the file at a path;
* `Disk.read`: the bytes at a path, or why they cannot be had;
* `Disk.append`: appends bytes to a device.
-/
import ReplicatedCache.Log.Device
import ReplicatedCache.Text.Pieces

namespace ReplicatedCache

/-- What a name in a directory stands for: a directory or a device, by its number. -/
inductive DirEntry where
  | directory (id : Nat)
  | device (id : Nat)
  deriving DecidableEq, Repr

/-- Directories and the devices in them. -/
structure Disk where
  /-- The devices, by number. -/
  devices : Array Device
  /-- The names in each directory, by its number; the root has the number zero. -/
  directories : Array (List (String × DirEntry))

/-- Why a file could not be read. -/
inductive ReadFault where
  | opening (fault : DeviceFault)
  | reading (fault : DeviceFault)
  deriving DecidableEq, Repr

namespace Disk

/-- A disk with the two special devices and nothing else. -/
def empty : Disk where
  devices := #[.null, .full]
  directories := #[[("dev", .directory 1)], [("null", .device 0), ("full", .device 1)]]

/-- Most bytes in the name of a file. -/
def maxNameLength : Nat := 255

/-- Most bytes in a path. -/
def maxPathLength : Nat := 4095

/-- The pieces of a path between its slashes. -/
def pieces (path : String) : List String := Text.splitAtEach '/' path

/-- The steps of a path, from the first to the last: names, single dots and two dots. -/
def steps (path : String) : List String := (pieces path).filter fun piece => piece ≠ ""

/-- Whether a path ends in a slash. -/
def endsInSlash (path : String) : Bool := (pieces path).getLast? = some ""

/-- Why a path cannot even be looked up. -/
def refusal? (path : String) : Option DeviceFault :=
  if path.toList.any (·.toNat = 0) then some .zeroInName
  else if maxPathLength < path.utf8ByteSize then some .nameTooLong
  else if path = "" then some .notFound
  else none

/-- What a name stands for in a directory. -/
def lookup (d : Disk) (directory : Nat) (name : String) : Option DirEntry :=
  (d.directories[directory]?).bind (List.lookup name)

/-- The directory at the end of a way, which lists the directories from there up to the root, but
not the root. -/
def current (way : List Nat) : Nat := way.headD 0

/-- The way that goes on from another one by some steps, each to a directory. -/
def enter (d : Disk) (way : List Nat) : List String → Except DeviceFault (List Nat)
  | [] => .ok way
  | step :: rest =>
      if step = "." then d.enter way rest
      else if step = ".." then d.enter way.tail rest
      else if maxNameLength < step.utf8ByteSize then .error .nameTooLong
      else match d.lookup (current way) step with
        | none => .error .notFound
        | some (.device _) => .error .notDirectory
        | some (.directory id) => d.enter (id :: way) rest

/-- What the last step of a path is. -/
inductive LastStep where
  /-- To a directory on the way: there is no name to look up. -/
  | back (directory : Nat)
  /-- To a name in a directory, which may not be in use. -/
  | name (directory : Nat) (name : String)
  deriving DecidableEq, Repr

/-- The last step of a path, if the steps before it can be taken. -/
def place (d : Disk) (path : String) : Except DeviceFault LastStep :=
  match refusal? path with
  | some fault => .error fault
  | none =>
      let steps := steps path
      (d.enter [] steps.dropLast).map fun way =>
        match steps.getLast? with
        | none | some "." => .back (current way)
        | some ".." => .back (current way.tail)
        | some name => .name (current way) name

/-- What a path leads to. Only a directory may be followed by a slash. -/
def resolve (d : Disk) (path : String) : Except DeviceFault DirEntry := do
  match ← d.place path with
  | .back directory => .ok (.directory directory)
  | .name directory name =>
      if maxNameLength < name.utf8ByteSize then .error .nameTooLong
      else match d.lookup directory name with
        | none => .error .notFound
        | some (.directory id) => .ok (.directory id)
        | some (.device id) => if endsInSlash path then .error .notDirectory else .ok (.device id)

/-- Whether a path leads to a directory. -/
def isDirectory (d : Disk) (path : String) : Bool :=
  match d.resolve path with
  | .ok (.directory _) => true
  | _ => false

/-- Lets a name in a directory stand for something. -/
def bind (d : Disk) (directory : Nat) (name : String) (entry : DirEntry) : Disk :=
  { d with directories := d.directories.modify directory fun names => names ++ [(name, entry)] }

/-- Creates the directory at a path, whose own directory must be there. -/
def makeDirectory (d : Disk) (path : String) : Except DeviceFault Disk := do
  match ← d.place path with
  | .back _ => .error .alreadyExists
  | .name directory name =>
      if maxNameLength < name.utf8ByteSize then .error .nameTooLong
      else match d.lookup directory name with
        | some _ => .error .alreadyExists
        | none =>
            let id := d.directories.size
            .ok ({ d with directories := d.directories.push [] }.bind directory name
              (.directory id))

/-- The pieces of a path without those at its end that mean nothing. -/
def trimPieces (ps : List String) : List String :=
  (ps.reverse.dropWhile fun piece => piece = "" || piece = ".").reverse

/-- The path without its last step, if there is more than one. -/
def parent? (path : String) : Option String :=
  match trimPieces (trimPieces (pieces path)).dropLast with
  | [] => none
  | ps => some ("/".intercalate ps)

/-- A path and the paths above it, the longest first. -/
def ancestors (path : String) : List String := go (pieces path).length path
where
  go : (steps : Nat) → String → List String
    | 0, path => [path]
    | steps + 1, path =>
        match parent? path with
        | some above => path :: go steps above
        | none => [path]

/-- Creates the first of some directories, each of which stands in the next one, and those above
it as far as they are missing. What was created before a fault stays. -/
def makeChain (d : Disk) : List String → Option DeviceFault × Disk
  | [] => (none, d)
  | path :: above =>
      match d.makeDirectory path with
      | .ok d => (none, d)
      | .error fault =>
          if fault = .notFound then
            match d.makeChain above with
            | (some fault, d) => (some fault, d)
            | (none, d) =>
                match d.makeDirectory path with
                | .ok d => (none, d)
                | .error fault => (if d.isDirectory path then none else some fault, d)
          else (if d.isDirectory path then none else some fault, d)

/-- Creates the directory at a path and those above it, as far as they are missing. -/
def makeDirectories (d : Disk) (path : String) : Option DeviceFault × Disk :=
  d.makeChain (ancestors path)

/-- Creates the directories above a path, as far as they are missing. -/
def makeParents (d : Disk) (path : String) : Option DeviceFault × Disk :=
  match parent? path with
  | some above => d.makeDirectories above
  | none => (none, d)

/-- Adds a device that has no name. -/
def attach (d : Disk) (device : Device) : Nat × Disk :=
  (d.devices.size, { d with devices := d.devices.push device })

/-- Opens the file at a path for appending, and creates it if its directory is there. -/
def openAppend (d : Disk) (path : String) : Except DeviceFault (Nat × Disk) := do
  match ← d.place path with
  | .back _ => .error .isDirectory
  | .name directory name =>
      if endsInSlash path then .error .isDirectory
      else if maxNameLength < name.utf8ByteSize then .error .nameTooLong
      else match d.lookup directory name with
        | some (.directory _) => .error .isDirectory
        | some (.device id) => .ok (id, d)
        | none =>
            let (id, d) := d.attach (.file [])
            .ok (id, d.bind directory name (.device id))

/-- The device with a number. -/
def device? (d : Disk) (id : Nat) : Option Device := d.devices[id]?

/-- The bytes of the device with a number. -/
def contentOf (d : Disk) (id : Nat) : Bytes :=
  match d.device? id with
  | some device => device.content
  | none => []

/-- Appends bytes to the device with a number, as `Device.append` says. -/
def append (d : Disk) (id : Nat) (sync : Bool) (bs : Bytes) : Option DeviceFault × Disk :=
  match d.device? id with
  | some device =>
      let (fault, device) := device.append sync bs
      (fault, { d with devices := d.devices.setIfInBounds id device })
  | none => (some .inputOutput, d)

/-- The bytes at a path, or why they cannot be had. -/
def read (d : Disk) (path : String) : Except ReadFault Bytes :=
  match d.resolve path with
  | .ok (.directory _) => .error (.reading .isDirectory)
  | .ok (.device id) => .ok (d.contentOf id)
  | .error fault => .error (.opening fault)

/-- The bytes of the regular file at a path. -/
def fileContent (d : Disk) (path : String) : Option Bytes :=
  match d.resolve path with
  | .ok (.device id) =>
      match d.device? id with
      | some (.file content) => some content
      | _ => none
  | _ => none

end Disk

end ReplicatedCache

import TelemetryBindings.CommandLine.Host

/-!
# A model of files and directories

A disk holds texts under paths below a working directory. Every directory on the way to a file
exists, the working directory itself and everything above it exist, and nothing else is known about
the directories above.
-/
namespace TelemetryBindings

/-- The names on the way from the working directory; `..` at the front leads out of it, and `/` to
the root of all directories. -/
abbrev Path := List String

structure Disk where
  files : List (Path × String) := []
  /-- Directories that exist without a file in them. -/
  directories : List Path := []
  deriving DecidableEq, Repr

namespace Disk

def read? (d : Disk) (p : Path) : Option String := d.files.lookup p

def isFile (d : Disk) (p : Path) : Bool := (d.read? p).isSome

/-- The places that exist on every disk. -/
def isOutside (p : Path) : Bool := p == ["/"] || p.all (· == "..")

def isDirectory (d : Disk) (p : Path) : Bool :=
  isOutside p || d.directories.contains p ||
    d.files.any fun file => p.length < file.1.length && p.isPrefixOf file.1

def put (d : Disk) (p : Path) (text : String) : Disk :=
  { d with files := (p, text) :: d.files.filter (·.1 != p) }

def parent (p : Path) : Path :=
  if p = ["/"] then p else if isOutside p then p ++ [".."] else p.dropLast

/-- The names in a path. The root stands first in an absolute path, and a slash at the end counts
as one more empty name. -/
def namesOf (path : String) : List String :=
  match (path.toList.splitOn '/').map String.ofList with
  | "" :: name :: names => "/" :: name :: names
  | names => names

/-- Follows names from a place that has to be a directory as long as names are left. An empty name
and a single dot stay where they are. -/
def follow (d : Disk) (place : Path) : List String → Except FileFault Path
  | [] => .ok place
  | name :: names =>
    if d.isDirectory place then
      if name = "/" then follow d ["/"] names
      else if name = "" ∨ name = "." then follow d place names
      else if name = ".." then follow d (parent place) names
      else follow d (place ++ [name]) names
    else .error (if d.isFile place then .notDirectory else .notFound)

/-- The place that a path leads to. -/
def locate (d : Disk) (path : String) : Except FileFault Path :=
  if path = "" then .error .notFound else d.follow [] (namesOf path)

def readText (d : Disk) (path : String) : Except FileFault String := do
  let p ← d.locate path
  match d.read? p with
  | some text => .ok text
  | none => .error (if d.isDirectory p then .isDirectory else .notFound)

/-- Writes a text over what a file held before. A path with a slash at its end names a directory. -/
def writeText (d : Disk) (path text : String) : Except FileFault Disk := do
  let names := namesOf path
  if path ≠ "" ∧ names.getLast? = some "" then
    let _ ← d.follow [] names.dropLast
    .error .isDirectory
  else
    let p ← d.locate path
    if d.isDirectory p then .error .isDirectory else .ok (d.put p text)

/-- Creates one directory. -/
def createDirectory (d : Disk) (names : List String) : Except FileFault Disk := do
  let p ← d.follow [] names
  if d.isDirectory p ∨ d.isFile p then .error .exists
  else .ok { d with directories := p :: d.directories }

/-- The names lead to a directory. -/
def leadsToDirectory (d : Disk) (names : List String) : Bool :=
  match d.follow [] names with
  | .ok p => d.isDirectory p
  | .error _ => false

/-- Creates a directory, given by its names in reverse, after those around it. A directory that
exists is no error. -/
def createWithParents (d : Disk) : List String → Except FileFault Disk
  | [] => .ok d
  | name :: parents =>
    let names := (name :: parents).reverse
    let settle := fun (d : Disk) (fault : FileFault) =>
      if d.leadsToDirectory names then .ok d else .error fault
    match d.createDirectory names with
    | .ok d => .ok d
    | .error .notFound => do
      let d ← createWithParents d parents
      match d.createDirectory names with
      | .ok d => .ok d
      | .error fault => settle d fault
    | .error fault => settle d fault

/-- Creates a directory and those around it. A dot at the end of a path names the directory in
front of it, which has to exist. -/
def createDirectories (d : Disk) (path : String) : Except FileFault Disk := do
  let names := (namesOf path).filter (· != "")
  if names.getLast? = some "." then
    let _ ← d.follow [] names
    return d
  else d.createWithParents (names.filter (· != ".")).reverse

end Disk

/-- The state of a host that keeps everything in memory. -/
structure Session where
  disk : Disk := {}
  /-- Lines of regular output. -/
  output : List String := []
  /-- Lines of diagnostics. -/
  errors : List String := []
  /-- The exit status that was asked for. -/
  status : Option Nat := none
  log : List Log.Record := []
  deriving DecidableEq, Repr

/-- A file operation that changes the disk if it succeeds. -/
def Session.change (operation : Disk → Except FileFault Disk) :
    StateM Session (Except FileFault Unit) := fun s =>
  match operation s.disk with
  | .ok disk => (.ok (), { s with disk })
  | .error fault => (.error fault, s)

instance : Host (StateM Session) where
  readText path := fun s => (s.disk.readText path, s)
  createDirectories path := Session.change (·.createDirectories path)
  writeText path text := Session.change (·.writeText path text)
  printLine line := modify fun s => { s with output := s.output ++ [line] }
  printErrorLine line := modify fun s => { s with errors := s.errors ++ [line] }
  exit status := modify fun s => { s with status := some status }
  log record := modify fun s => { s with log := s.log ++ [record] }

end TelemetryBindings

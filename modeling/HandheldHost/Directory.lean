import HandheldHost.FileFault
import HandheldHost.Raster

/-!
# The working directory

A program that is given paths works in a directory of plain files.  A path
leads from there, part by part, to one of the files or to something outside.
What is outside is a parameter.  What is written there is lost, unless it is
one of the standard outputs.
-/

namespace HandheldHost

/-- A place: the names that lead to it from the root. -/
abbrev Place := List String

/-- Where octets go that are written outside the working directory. -/
inductive Sink where
  | nowhere
  /-- The standard output. -/
  | output
  /-- The standard error output. -/
  | errors
  deriving DecidableEq, Repr

/-- What stands at a place. -/
inductive Node where
  | directory
  /-- A directory made up by the system: why no file can be created in it,
  and whether it limits the length of names. -/
  | listing (refusal : FileFault) (limited : Bool)
  /-- A file in the working directory. -/
  | file
  /-- Anything else: what comes of reading it and of writing to it. -/
  | special (reading : Except FileFault String) (writing : Except FileFault Sink)

namespace Node

/-- Whether a path can go on. -/
def isDirectory : Node → Bool
  | directory | listing .. => true
  | file | special .. => false

/-- Whether the names in a directory are limited. -/
def limitsNames : Node → Bool
  | directory => true
  | listing _ limited => limited
  | file | special .. => false

end Node

/-- The system that a working directory lies in. -/
structure Surroundings where
  /-- Where the working directory is. -/
  working : Place := []
  /-- What stands at a place outside the working directory. -/
  node? : Place → Option Node := fun place => if place = [] then some .directory else none
  /-- The place that a link stands for. -/
  link? : Place → Option Place := fun _ => none
  /-- The number of octets that a name may have. -/
  maxName : Nat := 255
  /-- The number of octets that a path may have. -/
  maxPath : Nat := 4095

/-- A directory of files by name. -/
structure Directory where
  surroundings : Surroundings := {}
  files : List (String × Bytes) := []
  /-- What was written to the standard output by its path. -/
  output : Bytes := #[]
  /-- What was written to the standard error output by its path. -/
  errors : Bytes := #[]

namespace Directory

/-- The octets of a file inside. -/
def find? (d : Directory) (name : String) : Option Bytes :=
  (d.files.find? fun f => f.1 == name).map (·.2)

/-- Puts a file in place of any of its name. -/
def put (d : Directory) (name : String) (bytes : Bytes) : Directory :=
  { d with files := (name, bytes) :: d.files.filter fun f => f.1 != name }

/-- The name of a place directly inside the working directory. -/
def inside? (d : Directory) (place : Place) : Option String :=
  if place.dropLast = d.surroundings.working then place.getLast? else none

/-- What stands at a place. -/
def node? (d : Directory) (place : Place) : Option Node :=
  match d.inside? place with
  | some name => (d.find? name).map fun _ => .file
  | none => d.surroundings.node? place

/-- Goes on by a name, along a link if it is one. -/
def follow (d : Directory) (place : Place) (name : String) : Place :=
  let next := place ++ [name]
  (d.surroundings.link? next).getD next

/-- Refuses a name that is too long for the directory that it is looked up in. -/
def checkName (d : Directory) (node : Node) (name : String) : Except FileFault Unit :=
  if node.limitsNames ∧ d.surroundings.maxName < name.utf8ByteSize then .error .nameTooLong
  else .ok ()

/-- The directory at a place. -/
def enter (d : Directory) (place : Place) : Except FileFault Node :=
  match d.node? place with
  | none => .error .missing
  | some node => if node.isDirectory then .ok node else .error .notDirectory

/-- Goes on by a part of a path. -/
def step (d : Directory) (place : Place) (part : String) : Except FileFault Place := do
  let node ← d.enter place
  if part = "." then return place
  if part = ".." then return place.dropLast
  d.checkName node part
  let next := d.follow place part
  if (d.node? next).isSome then return next
  .error .missing

/-- A path taken apart: whether it starts at the root, its parts, and whether
it says that it leads to a directory. -/
structure Path where
  absolute : Bool
  parts : List String
  trailing : Bool

/-- Takes a path apart.  No path and one that is too long are refused. -/
def path (d : Directory) (text : String) : Except FileFault Path :=
  if text = "" then .error .missing
  else if d.surroundings.maxPath < text.utf8ByteSize then .error .nameTooLong
  else
    .ok { absolute := text.startsWith "/"
          parts := (text.splitOn "/").filter (· ≠ "")
          trailing := text.endsWith "/" }

/-- Where parts of a path lead. -/
def walk (d : Directory) (path : Path) (parts : List String) : Except FileFault Place :=
  parts.foldlM d.step (if path.absolute then [] else d.surroundings.working)

/-- The octets at a place. -/
def contents (d : Directory) (place : Place) : Except FileFault Bytes :=
  match d.node? place with
  | none => .error .missing
  | some .directory | some (.listing ..) => .error .isDirectory
  | some .file => .ok (((d.inside? place).bind d.find?).getD #[])
  | some (.special reading _) => reading.map fun text => text.toUTF8.data

/-- The octets that a path leads to. -/
def read (d : Directory) (text : String) : Except FileFault Bytes := do
  let path ← d.path text
  let place ← d.walk path path.parts
  if path.trailing then
    let _ ← d.enter place
  d.contents place

/-- Takes what is written outside. -/
def drain (d : Directory) (bytes : Bytes) : Sink → Directory
  | .nowhere => d
  | .output => { d with output := d.output ++ bytes }
  | .errors => { d with errors := d.errors ++ bytes }

/-- Writes at a place below a directory. -/
def store (d : Directory) (parent : Node) (place : Place) (bytes : Bytes) :
    Except FileFault Directory :=
  match d.node? place with
  | some .directory | some (.listing ..) => .error .isDirectory
  | some (.special _ writing) => writing.map (d.drain bytes)
  | some .file | none =>
    match d.inside? place, parent with
    | some name, _ => .ok (d.put name bytes)
    | none, .listing refusal _ => .error refusal
    | none, _ => .ok d

/-- Writes a file, in place of any that is there. -/
def write (d : Directory) (text : String) (bytes : Bytes) : Except FileFault Directory := do
  let path ← d.path text
  match path.parts.getLast? with
  | none => .error .isDirectory
  | some name =>
    let place ← d.walk path path.parts.dropLast
    let parent ← d.enter place
    if name = "." ∨ name = ".." ∨ path.trailing then .error .isDirectory
    else
      d.checkName parent name
      d.store parent (d.follow place name) bytes

end Directory

end HandheldHost

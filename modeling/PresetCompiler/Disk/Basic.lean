import PresetCompiler.Script

/-! Disks: files where links and devices matter to what is written. A file has a number under which
its content is kept, and it may have several names. A symbolic link stands for another path. A
device takes what is written to it and has nothing to read. Permissions, times and other kinds of
special files are left out. -/

namespace PresetCompiler

/-- What stands at a location of a disk. -/
inductive DiskNode
  /-- A name of the file with a number. -/
  | file (number : Nat)
  | directory
  | link (path : String)
  | device
  deriving DecidableEq

/-- The number of a file. -/
def DiskNode.number? : DiskNode → Option Nat
  | .file number => some number
  | _ => none

/-- Files, directories, links and devices, one entry for each name. -/
structure Disk where
  /-- The working directory. -/
  place : Location
  entries : List (Location × DiskNode)
  /-- The contents of the files. -/
  content : Nat → ByteArray
  /-- How many moves are still to fail because another program has the target open. -/
  held : Nat

namespace Disk

/-- What stands at a location. The root is a directory. -/
def node? (disk : Disk) (location : Location) : Option DiskNode :=
  if location = [] then some .directory else disk.entries.lookup location

/-- The disk with a node at a location. -/
def set (disk : Disk) (location : Location) (node : DiskNode) : Disk :=
  { disk with entries := setEntry location node disk.entries }

/-- The disk without what stands at a location. -/
def unlink (disk : Disk) (location : Location) : Disk :=
  { disk with entries := dropEntry location disk.entries }

/-- The disk with another content of a file. -/
def setContent (disk : Disk) (number : Nat) (bytes : ByteArray) : Disk :=
  { disk with content := fun n => if n = number then bytes else disk.content n }

/-- A number that no file has. -/
def newNumber (disk : Disk) : Nat :=
  (disk.entries.filterMap fun entry => entry.2.number?).max?.getD 0 + 1

/-- The disk with a new file at a location. -/
def putFile (disk : Disk) (location : Location) (bytes : ByteArray) : Disk :=
  (disk.set location (.file disk.newNumber)).setContent disk.newNumber bytes

/-! ### Paths -/

/-- How many links are followed on the way along one path. -/
def maxLinks : Nat := 40

/-- The location of a name in the directory at a location. -/
def enter (disk : Disk) (here : Location) (name : String) : Except FileFault Location :=
  match disk.node? here with
  | none => .error .notFound
  | some .directory => here.enter name
  | some _ => .error .notDirectory

/-- Enters names one after the other. What a link stands for is left to `follow`, with the names
behind it. A link at the end is only followed when the way goes `through` it. -/
def walkBy (disk : Disk) (through : Bool)
    (follow : Location → List String → Except FileFault Location) :
    Location → List String → Except FileFault Location
  | here, [] => .ok here
  | here, name :: rest =>
    match disk.enter here name with
    | .error fault => .error fault
    | .ok next =>
      match disk.node? next with
      | some (.link path) =>
        if rest = [] && !through then .ok next
        else follow (here.origin path) (Path.steps path ++ rest)
      | _ => disk.walkBy through follow next rest

/-- Enters names one after the other and follows links, as many as are allowed. -/
def walk (disk : Disk) (through : Bool) : (links : Nat) → Location → List String →
    Except FileFault Location
  | 0 => disk.walkBy through fun _ _ => .error .tooManyLinks
  | links + 1 => disk.walkBy through (disk.walk through links)

/-- The location that names lead to from where a path starts. -/
def locateNames (disk : Disk) (through : Bool) (path : String) (names : List String) :
    Except FileFault Location := do
  Path.check path
  disk.walk through maxLinks (disk.place.origin path) names

/-- The location that a path leads to, through a link that it names or up to it. -/
def locate (disk : Disk) (through : Bool) (path : String) : Except FileFault Location :=
  disk.locateNames through path (Path.names path)

/-- The location of the directory that holds what a path names. -/
def locateParent (disk : Disk) (path : String) : Except FileFault Location :=
  disk.locateNames true path ((Path.names path).dropLast ++ ["."])

/-- What a path leads to. A slash at its end can only follow a directory. -/
def find (disk : Disk) (path : String) : Except FileFault DiskNode := do
  let location ← disk.locateNames true path (Path.steps path)
  match disk.node? location with
  | some node => .ok node
  | none => .error .notFound

/-! ### Reading -/

/-- Whether a path leads to something. -/
def contains (disk : Disk) (path : String) : Bool :=
  (disk.find path).isOk

/-- Whether a path leads to a directory. -/
def isDirectory (disk : Disk) (path : String) : Bool :=
  match disk.find path with
  | .ok .directory => true
  | _ => false

/-- What is read from a path. -/
def read (disk : Disk) (path : String) : Except FileFault ByteArray := do
  match ← disk.find path with
  | .file number => .ok (disk.content number)
  | .directory => .error .isDirectory
  | .device => .ok .empty
  -- No way through all links ends at one.
  | .link _ => .error .notFound

/-! ### Writing -/

/-- Where what is written to a path goes, through all links. -/
def writeTarget (disk : Disk) (path : String) : Except FileFault Location := do
  if Path.endsWithSlash path then
    let _ ← disk.locateParent path
    .error .isDirectory
  else
    let location ← disk.locate true path
    match disk.node? location with
    | some .directory => .error .isDirectory
    | some (.link _) => .error .notFound
    | _ => .ok location

/-- The disk after bytes are written to what stands at a location, or to a new file there. -/
def writeAt (disk : Disk) (location : Location) (bytes : ByteArray) : Disk :=
  match disk.node? location with
  | some (.file number) => disk.setContent number bytes
  | some .device => disk
  | _ => disk.putFile location bytes

/-- Writes to a path. -/
def write (disk : Disk) (path : String) (bytes : ByteArray) : Except FileFault Unit × Disk :=
  match disk.writeTarget path with
  | .ok location => (.ok (), disk.writeAt location bytes)
  | .error fault => (.error fault, disk)

/-- Creates one directory. -/
def createDir (disk : Disk) (path : String) : Except FileFault Disk := do
  let location ← disk.locate false path
  match disk.node? location with
  | some _ => .error .alreadyExists
  | none => .ok (disk.set location .directory)

/-- A directory that cannot be created is there already, or it stays a failure. -/
def settleDir (disk : Disk) (path : String) (fault : FileFault) : Except FileFault Unit × Disk :=
  (if disk.isDirectory path then .ok () else .error fault, disk)

/-- Creates the directory whose path has the given parts, the last one first, and before it those
that it is in, where they are missing. Those before a fault stay. -/
def createParts (disk : Disk) : List String → Except FileFault Unit × Disk
  | [] => (.ok (), disk)
  | name :: above =>
    let path := Path.ofParts (name :: above).reverse
    match disk.createDir path with
    | .ok created => (.ok (), created)
    | .error .notFound =>
      match disk.createParts above with
      | (.error fault, reached) => (.error fault, reached)
      | (.ok (), reached) =>
        match reached.createDir path with
        | .ok created => (.ok (), created)
        | .error fault => reached.settleDir path fault
    | .error fault => disk.settleDir path fault

/-- Creates a directory and those that it is in, where they are missing. -/
def createDirs (disk : Disk) (path : String) : Except FileFault Unit × Disk :=
  disk.createParts (Path.parts path).reverse

/-! ### Temporary files -/

/-- Whether something in the directory at a location has a name. -/
def nameTaken (disk : Disk) (here : Location) (name : String) : Bool :=
  match disk.enter here name with
  | .ok location => (disk.node? location).isSome
  | .error _ => false

/-- The location for a temporary file in a directory. -/
def tempPlace (disk : Disk) (directory : String) : Except FileFault Location := do
  let here ← disk.locateNames true directory (Path.steps directory)
  match freeTempName? (disk.nameTaken here) maxTempNames with
  | none => .error .alreadyExists
  | some name =>
    Path.check (Path.join disk.place.path (Path.join directory name))
    disk.enter here name

/-- Creates an empty temporary file in a directory. -/
def createTemp (disk : Disk) (directory : String) : Except FileFault Location × Disk :=
  match disk.tempPlace directory with
  | .ok temp => (.ok temp, disk.putFile temp .empty)
  | .error fault => (.error fault, disk)

/-- Gives a temporary file its content. -/
def writeTemp (disk : Disk) (temp : Location) (bytes : ByteArray) : Except FileFault Unit × Disk :=
  match disk.node? temp with
  | some (.file number) => (.ok (), disk.setContent number bytes)
  | _ => (.error .notFound, disk)

/-- Where a file can be moved to so that it stands at a path. A link that the path names is not
followed, no name is made of dots, and nothing can be moved over a directory. -/
def moveTarget (disk : Disk) (path : String) : Except FileFault Location := do
  let _ ← disk.locateParent path
  if !Path.endsInName path then .error .busy
  else
    let target ← disk.locate false path
    if Path.endsWithSlash path then .error .notDirectory
    else if disk.node? target = some .directory then .error .isDirectory
    else .ok target

/-- Moves the file at a location to a path, in place of what stands there. -/
def moveTemp (disk : Disk) (temp : Location) (path : String) : Except FileFault Unit × Disk :=
  match disk.moveTarget path, disk.held, disk.node? temp with
  | .error fault, _, _ => (.error fault, disk)
  | .ok _, held + 1, _ => (.error .busy, { disk with held })
  | .ok _, 0, none => (.error .notFound, disk)
  | .ok target, 0, some node => (.ok (), (disk.unlink temp).set target node)

instance : FileSystem Disk where
  contains := contains
  read := read
  write := write
  createDirs := createDirs
  createTemp := createTemp
  writeTemp := writeTemp
  syncTemp disk _ := (.ok (), disk)
  moveTemp := moveTemp
  removeTemp := unlink

end Disk

end PresetCompiler

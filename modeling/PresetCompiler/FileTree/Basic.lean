import PresetCompiler.Script
import PresetCompiler.Text.Utf8

/-! Files and directories, and the operations on them by path, as seen from a working directory.
A tree has regular files and directories only: links, devices and other special files are left out,
and so are permissions. Every path leads to one location there, and every file has one name. Where
links and devices matter to what is written, see `Disk`. -/

namespace PresetCompiler

/-- What stands at a location. -/
inductive FileNode
  | file (bytes : ByteArray) (modified : Int)
  | directory

/-- Files and directories, one entry for each but the root. -/
structure FileTree where
  /-- The working directory. -/
  place : Location
  entries : List (Location × FileNode)
  /-- The time, which every write moves on. -/
  clock : Int

namespace FileTree

/-- The tree at a time that holds the working directory, which is empty, and those that it is in. -/
def empty (place : Location) (clock : Int) : FileTree :=
  ⟨place, (List.range place.length).map fun n => (place.take (n + 1), .directory), clock⟩

/-- What stands at a location. The root is a directory. -/
def node? (tree : FileTree) (location : Location) : Option FileNode :=
  if location = [] then some .directory else tree.entries.lookup location

/-- The tree with a node at a location. -/
def set (tree : FileTree) (location : Location) (node : FileNode) : FileTree :=
  { tree with entries := setEntry location node tree.entries }

/-- Putting a node somewhere changes what stands there and nothing else. -/
theorem node?_set (tree : FileTree) {location : Location} (node : FileNode) (h : location ≠ [])
    (other : Location) :
    (tree.set location node).node? other =
      if other = location then some node else tree.node? other := by
  by_cases hRoot : other = []
  · subst hRoot
    simp [node?, Ne.symm h]
  · simp [node?, set, hRoot, lookup_setEntry]

/-- The tree with a file at a location, written now. -/
def putFile (tree : FileTree) (location : Location) (bytes : ByteArray) : FileTree :=
  { tree.set location (.file bytes tree.clock) with clock := tree.clock + 1 }

/-- The tree without what stands at a location and below it. -/
def erase (tree : FileTree) (location : Location) : FileTree :=
  { tree with entries := tree.entries.filter fun entry => !location.isPrefixOf entry.1 }

/-! ### Paths -/

/-- The location of a name in the directory at a location. -/
def enter (tree : FileTree) (here : Location) (name : String) : Except FileFault Location :=
  match tree.node? here with
  | none => .error .notFound
  | some (.file ..) => .error .notDirectory
  | some .directory => here.enter name

/-- Where the names of a path start from. -/
def start (tree : FileTree) (path : String) : Location :=
  Location.origin tree.place path

/-- The location that a path names. Something stands on the way there, but maybe not there. -/
def locate (tree : FileTree) (path : String) : Except FileFault Location := do
  Path.check path
  (Path.names path).foldlM tree.enter (tree.start path)

/-- The location of the directory that holds what a path names. -/
def locateParent (tree : FileTree) (path : String) : Except FileFault Location := do
  Path.check path
  ((Path.names path).dropLast ++ ["."]).foldlM tree.enter (tree.start path)

/-- What a path names. A slash at its end can only follow a directory. -/
def find (tree : FileTree) (path : String) : Except FileFault FileNode := do
  let location ← tree.locate path
  match tree.node? location with
  | none => .error .notFound
  | some (.file bytes modified) =>
    if Path.endsWithSlash path then .error .notDirectory else .ok (.file bytes modified)
  | some .directory => .ok .directory

/-! ### Reading -/

/-- Whether a path names something. -/
def contains (tree : FileTree) (path : String) : Bool :=
  (tree.find path).isOk

/-- Whether a path names a directory. -/
def isDirectory (tree : FileTree) (path : String) : Bool :=
  match tree.find path with
  | .ok .directory => true
  | _ => false

/-- The content of the file that a path names. -/
def read (tree : FileTree) (path : String) : Except FileFault ByteArray := do
  match ← tree.find path with
  | .file bytes _ => .ok bytes
  | .directory => .error .isDirectory

/-- When what a path names was changed. -/
def modified? (tree : FileTree) (path : String) : Option Int :=
  match tree.find path with
  | .ok (.file _ modified) => some modified
  | .ok .directory => some tree.clock
  | .error _ => none

/-! ### Writing -/

/-- Writes a file, which is created unless it exists. -/
def write (tree : FileTree) (path : String) (bytes : ByteArray) : Except FileFault FileTree := do
  if Path.endsWithSlash path then
    let _ ← tree.locateParent path
    .error .isDirectory
  else
    let location ← tree.locate path
    match tree.node? location with
    | some .directory => .error .isDirectory
    | _ => .ok (tree.putFile location bytes)

/-- Creates one directory. -/
def createDir (tree : FileTree) (path : String) : Except FileFault FileTree := do
  let location ← tree.locate path
  match tree.node? location with
  | some _ => .error .alreadyExists
  | none => .ok (tree.set location .directory)

/-- Creates the directories with the given names, each in the one before, where they are missing.
Those before a fault stay. -/
def createMissing (tree : FileTree) (here : Location) :
    List String → Except FileFault Unit × FileTree
  | [] => (.ok (), tree)
  | name :: rest =>
    match tree.enter here name with
    | .error fault => (.error fault, tree)
    | .ok location =>
      match tree.node? location with
      | some .directory => tree.createMissing location rest
      | some (.file ..) => (.error .alreadyExists, tree)
      | none => (tree.set location .directory).createMissing location rest

/-- Creates a directory and those that it is in, where they are missing. -/
def createDirs (tree : FileTree) (path : String) : Except FileFault Unit × FileTree :=
  match tree.createDir path with
  | .ok tree => (.ok (), tree)
  | .error .notFound => tree.createMissing (tree.start path) (Path.names path)
  | .error fault => (if tree.isDirectory path then .ok () else .error fault, tree)

/-! ### Temporary files -/

/-- Whether something in the directory at a location has a name. -/
def nameTaken (tree : FileTree) (here : Location) (name : String) : Bool :=
  match tree.enter here name with
  | .ok location => (tree.node? location).isSome
  | .error _ => false

/-- The location for a temporary file in a directory. -/
def tempPlace (tree : FileTree) (directory : String) : Except FileFault Location := do
  let here ← tree.locate directory
  match freeTempName? (tree.nameTaken here) maxTempNames with
  | none => .error .alreadyExists
  | some name =>
    Path.check (Path.join tree.place.path (Path.join directory name))
    tree.enter here name

/-- Creates an empty temporary file in a directory. -/
def createTemp (tree : FileTree) (directory : String) : Except FileFault Location × FileTree :=
  match tree.tempPlace directory with
  | .ok temp => (.ok temp, tree.putFile temp .empty)
  | .error fault => (.error fault, tree)

/-- Where a file can be moved to so that it stands at a path. No name is made of dots, and nothing
can be moved over a directory. -/
def moveTarget (tree : FileTree) (path : String) : Except FileFault Location := do
  let _ ← tree.locateParent path
  if !Path.endsInName path then .error .busy
  else
    let target ← tree.locate path
    if Path.endsWithSlash path then .error .notDirectory
    else
      match tree.node? target with
      | some .directory => .error .isDirectory
      | _ => .ok target

/-- The tree without the file at a location. -/
def unlink (tree : FileTree) (location : Location) : FileTree :=
  { tree with entries := dropEntry location tree.entries }

/-- Moves the file at a location to a path, in place of a file that stands there. -/
def move (tree : FileTree) (source : Location) (path : String) : Except FileFault FileTree := do
  let target ← tree.moveTarget path
  match tree.node? source with
  | some node => .ok ((tree.unlink source).set target node)
  | none => .error .notFound

/-! ### Removing and dating -/

/-- Removes what a path names. -/
def remove (tree : FileTree) (path : String) : Except FileFault FileTree := do
  let location ← tree.locate path
  match tree.node? location with
  | some _ => .ok (tree.erase location)
  | none => .error .notFound

/-- Sets when the file that a path names was changed. -/
def setModified (tree : FileTree) (path : String) (time : Int) : Except FileFault FileTree := do
  let location ← tree.locate path
  match tree.node? location with
  | some (.file bytes _) => .ok (tree.set location (.file bytes time))
  | some .directory => .ok tree
  | none => .error .notFound

/-! ### Views -/

/-- The entries below the working directory, with their locations as seen from there. -/
def entriesHere (tree : FileTree) : List (Location × FileNode) :=
  tree.entries.filterMap fun (location, node) =>
    match tree.place.isPrefixOf? location with
    | some (name :: rest) => some (name :: rest, node)
    | _ => none

/-- An entry as it is listed: a file with its text, a directory with a slash and no text. -/
def listEntry (entry : Location × FileNode) : String × String :=
  let path := "/".intercalate entry.1
  match entry.2 with
  | .file bytes _ => (path, Text.decodeReplacing bytes)
  | .directory => (path ++ "/", "")

/-- The files and directories below the working directory. -/
def list (tree : FileTree) : List (String × String) :=
  tree.entriesHere.map listEntry

/-- The files and directories that are new or changed since an earlier state. -/
def changesSince (tree earlier : FileTree) : List (String × String) :=
  tree.list.filter fun entry => entry ∉ earlier.list

/-! ### Scripts -/

/-- The answer to a step that may change the tree, and the tree after it. -/
def settle (tree : FileTree) : Except FileFault FileTree → Except FileFault Unit × FileTree
  | .ok changed => (.ok (), changed)
  | .error fault => (.error fault, tree)

instance : FileSystem FileTree where
  contains := contains
  read := read
  write tree path bytes := tree.settle (tree.write path bytes)
  createDirs := createDirs
  createTemp := createTemp
  writeTemp tree temp bytes := (.ok (), tree.putFile temp bytes)
  syncTemp tree _ := (.ok (), tree)
  moveTemp tree temp path := tree.settle (tree.move temp path)
  removeTemp := unlink

end FileTree

end PresetCompiler

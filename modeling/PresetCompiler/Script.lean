import PresetCompiler.Duration
import PresetCompiler.FileTree.Entries

/-! Scripts: what a program does to files, one step after another. A script can be run on any model
of files that answers its steps, where it can be reasoned about, and by an outer layer on real
files. -/

namespace PresetCompiler

/-- Files that a script can be run on. A temporary file is known by its location. -/
class FileSystem (σ : Type) where
  /-- Whether a path names something. -/
  contains (files : σ) (path : String) : Bool
  /-- The content of a file. -/
  read (files : σ) (path : String) : Except FileFault ByteArray
  /-- Writes a file in place. -/
  write (files : σ) (path : String) (bytes : ByteArray) : Except FileFault Unit × σ
  /-- Creates a directory and those that it is in, where they are missing. -/
  createDirs (files : σ) (path : String) : Except FileFault Unit × σ
  /-- Creates an empty file with a name of its own in a directory. -/
  createTemp (files : σ) (directory : String) : Except FileFault Location × σ
  /-- Gives a temporary file its content. -/
  writeTemp (files : σ) (temp : Location) (bytes : ByteArray) : Except FileFault Unit × σ
  /-- Waits until the content of a temporary file is stored. -/
  syncTemp (files : σ) (temp : Location) : Except FileFault Unit × σ
  /-- Moves a temporary file to a path, in place of a file that stands there. -/
  moveTemp (files : σ) (temp : Location) (path : String) : Except FileFault Unit × σ
  /-- Removes a temporary file, as far as that is possible. -/
  removeTemp (files : σ) (temp : Location) : σ

/-- A computation that looks at files and changes them. -/
inductive Script (α : Type) : Type
  | done (value : α)
  | contains (path : String) (next : Bool → Script α)
  | read (path : String) (next : Except FileFault ByteArray → Script α)
  | write (path : String) (bytes : ByteArray) (next : Except FileFault Unit → Script α)
  | createDirs (path : String) (next : Except FileFault Unit → Script α)
  | createTemp (directory : String) (next : Except FileFault Location → Script α)
  | writeTemp (temp : Location) (bytes : ByteArray) (next : Except FileFault Unit → Script α)
  | syncTemp (temp : Location) (next : Except FileFault Unit → Script α)
  | moveTemp (temp : Location) (path : String) (next : Except FileFault Unit → Script α)
  | removeTemp (temp : Location) (next : Unit → Script α)
  /-- Waits and goes on. -/
  | sleep (delay : Duration) (next : Unit → Script α)

namespace Script

/-- One script and then another, which depends on the result of the first. -/
def bind : Script α → (α → Script β) → Script β
  | done value, f => f value
  | contains path next, f => .contains path fun answer => (next answer).bind f
  | read path next, f => .read path fun answer => (next answer).bind f
  | write path bytes next, f => .write path bytes fun answer => (next answer).bind f
  | createDirs path next, f => .createDirs path fun answer => (next answer).bind f
  | createTemp directory next, f => .createTemp directory fun answer => (next answer).bind f
  | writeTemp temp bytes next, f => .writeTemp temp bytes fun answer => (next answer).bind f
  | syncTemp temp next, f => .syncTemp temp fun answer => (next answer).bind f
  | moveTemp temp path next, f => .moveTemp temp path fun answer => (next answer).bind f
  | removeTemp temp next, f => .removeTemp temp fun answer => (next answer).bind f
  | sleep delay next, f => .sleep delay fun answer => (next answer).bind f

instance : Monad Script where
  pure := done
  bind := bind

variable {σ : Type} [FileSystem σ]

/-- The result of a script on files, and the files after it. -/
def run (files : σ) : Script α → α × σ
  | done value => (value, files)
  | contains path next => (next (FileSystem.contains files path)).run files
  | read path next => (next (FileSystem.read files path)).run files
  | write path bytes next =>
    let (answer, files) := FileSystem.write files path bytes
    (next answer).run files
  | createDirs path next =>
    let (answer, files) := FileSystem.createDirs files path
    (next answer).run files
  | createTemp directory next =>
    let (answer, files) := FileSystem.createTemp files directory
    (next answer).run files
  | writeTemp temp bytes next =>
    let (answer, files) := FileSystem.writeTemp files temp bytes
    (next answer).run files
  | syncTemp temp next =>
    let (answer, files) := FileSystem.syncTemp files temp
    (next answer).run files
  | moveTemp temp path next =>
    let (answer, files) := FileSystem.moveTemp files temp path
    (next answer).run files
  | removeTemp temp next => (next ()).run (FileSystem.removeTemp files temp)
  | sleep _ next => (next ()).run files

/-- Running two scripts one after the other hands the files from the first to the second. -/
theorem run_bind (files : σ) (script : Script α) (f : α → Script β) :
    (script >>= f).run files = (f (script.run files).1).run (script.run files).2 := by
  show (script.bind f).run files = _
  induction script generalizing files with
  | done value => rfl
  | contains path next ih => exact ih _ files
  | read path next ih => exact ih _ files
  | write path bytes next ih => exact ih _ _
  | createDirs path next ih => exact ih _ _
  | createTemp directory next ih => exact ih _ _
  | writeTemp temp bytes next ih => exact ih _ _
  | syncTemp temp next ih => exact ih _ _
  | moveTemp temp path next ih => exact ih _ _
  | removeTemp temp next ih => exact ih _ _
  | sleep delay next ih => exact ih _ _

end Script

/-- A script that may fail. -/
abbrev Attempt (ε α : Type) := ExceptT ε Script α

namespace Attempt

/-- The attempt that touches no file and has a given result. -/
def ofExcept (result : Except ε α) : Attempt ε α :=
  ExceptT.mk (pure result)

/-- The attempt with a failure changed. -/
def mapFault (f : ε → ε') (attempt : Attempt ε α) : Attempt ε' α :=
  ExceptT.mk (do return (← attempt.run).mapError f)

end Attempt

end PresetCompiler

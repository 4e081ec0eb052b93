import PresetCompiler.Cli.Program

/-! The program on real files. Everything but the access to files is in the modules that this one
imports. -/

namespace PresetCompiler

/-- The fault of a failed operation on a real file. -/
def FileFault.ofError (error : IO.Error) : FileFault :=
  match error with
  | .noFileOrDirectory .. => .notFound
  | .alreadyExists .. => .alreadyExists
  | .inappropriateType _ 20 _ => .notDirectory
  | .inappropriateType _ 21 _ => .isDirectory
  | .invalidArgument _ 36 _ => .nameTooLong
  | .invalidArgument _ 40 _ => .tooManyLinks
  | .permissionDenied _ 1 _ => .notPermitted
  | .permissionDenied _ 13 _ => .permissionDenied
  | .resourceBusy 16 _ => .busy
  | .resourceBusy 26 _ => .textBusy
  | error => .other false (toString error)

/-- Performs an operation on a real file. -/
def attempt (path : String) (action : String → IO α) : IO (Except FileFault α) := do
  match Path.check path with
  | .error fault => return .error fault
  | .ok () =>
    try return .ok (← action path)
    catch error => return .error (.ofError error)

/-- A random name for a temporary file. -/
def randomTempName : IO String := do
  let mut name := ".tmp"
  for _ in List.range 6 do
    name := name.push (Char.ofNat ('a'.toNat + (← IO.rand 0 25)))
  return name

/-- Creates an empty real file with a name that no other file in the directory has. -/
def createRealTemp (directory : String) : (tries : Nat) → IO (Except FileFault Location)
  | 0 => return .error .alreadyExists
  | tries + 1 => do
    let created ← attempt directory fun directory => do
      let here := (← IO.FS.realPath directory).toString
      let temp : Location := Path.names here ++ [← randomTempName]
      discard <| IO.FS.Handle.mk temp.path .writeNew
      return temp
    match created with
    | .error .alreadyExists => createRealTemp directory tries
    | result => return result

/-- Performs a script on real files. -/
def Script.perform : Script α → IO α
  | .done value => return value
  | .contains path next => do
    (next (← attempt path fun path => IO.FS.realPath path).isOk).perform
  | .read path next => do (next (← attempt path fun path => IO.FS.readBinFile path)).perform
  | .write path bytes next => do
    (next (← attempt path fun path => IO.FS.writeBinFile path bytes)).perform
  | .createDirs path next => do (next (← attempt path fun path => IO.FS.createDirAll path)).perform
  | .createTemp directory next => do (next (← createRealTemp directory maxTempNames)).perform
  | .writeTemp temp bytes next => do
    (next (← attempt temp.path fun path => IO.FS.writeBinFile path bytes)).perform
  -- The file was closed when it was written, and no call waits for more than that.
  | .syncTemp _ next => do (next (.ok ())).perform
  | .moveTemp temp path next => do
    (next (← attempt path fun path => IO.FS.rename temp.path path)).perform
  | .removeTemp temp next => do
    discard <| attempt temp.path fun path => IO.FS.removeFile path
    (next ()).perform
  | .sleep delay next => do
    IO.sleep (.ofNat (delay.toNanos / 1000000))
    (next ()).perform

/-- The user's own file of settings. -/
def userSettingsPath : IO (Option String) := do
  let base ← match ← IO.getEnv "XDG_CONFIG_HOME" with
    | some base => pure (some base)
    | none => pure ((← IO.getEnv "HOME").map (Path.join · ".config"))
  return base.map (Path.join · "wpreset/wpreset.toml")

end PresetCompiler

open PresetCompiler Cli

/-- Runs the program, prints what it has to say and answers whether it succeeded. -/
def main (args : List String) : IO UInt32 := do
  let outcome ← (program (← userSettingsPath) args).perform
  match outcome with
  | .printed text => IO.print text; return 0
  | .usage fault => IO.eprintln fault.name; return 2
  | .failed failure => IO.eprintln ("Error: " ++ ": ".intercalate failure.chain); return 1

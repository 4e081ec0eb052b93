import PresetCompiler.Backoff
import PresetCompiler.FileTree.Basic
import PresetCompiler.Preset.Writer
import PresetCompiler.Settings.Document
import PresetCompiler.Strategy.Catalog

/-! Presets, settings and catalogs in files. -/

namespace PresetCompiler

namespace Script

/-- Whether a path names something. -/
def containsPath (path : String) : Attempt ε Bool :=
  ExceptT.mk (.contains path fun answer => .done (.ok answer))

/-- The content of a file. -/
def readFile (path : String) : Attempt FileFault ByteArray :=
  .read path .done

/-- Writes a file. -/
def writeFile (path : String) (text : String) : Attempt FileFault Unit :=
  .write path text.toUTF8 .done

/-- Creates a directory and those that it is in. -/
def createDirectories (path : String) : Attempt FileFault Unit :=
  .createDirs path .done

/-- Creates an empty file with a name of its own in a directory. -/
def createTempFile (directory : String) : Attempt FileFault Location :=
  .createTemp directory .done

/-- Gives a temporary file its content. -/
def writeTempFile (temp : Location) (text : String) : Attempt FileFault Unit :=
  .writeTemp temp text.toUTF8 .done

/-- Waits until the content of a temporary file is stored. -/
def syncTempFile (temp : Location) : Attempt FileFault Unit :=
  .syncTemp temp .done

/-- Moves a temporary file to a path. -/
def moveTempFile (temp : Location) (path : String) : Attempt FileFault Unit :=
  .moveTemp temp path .done

/-- Removes a temporary file. -/
def removeTempFile (temp : Location) : Attempt ε Unit :=
  ExceptT.mk (.removeTemp temp fun _ => .done (.ok ()))

/-- Waits. -/
def pause (delay : Duration) : Attempt ε Unit :=
  ExceptT.mk (.sleep delay fun _ => .done (.ok ()))

end Script

open Script

/-- The text of bytes that are all valid. -/
def strictText (bytes : ByteArray) : Except FileFault String :=
  match String.fromUTF8? bytes with
  | some text => .ok text
  | none => .error .notUtf8

/-- The bytes of a text are read as that text. -/
theorem strictText_toUTF8 (text : String) : strictText text.toUTF8 = .ok text := by
  simp [strictText, String.fromUTF8?, String.fromUTF8, String.toUTF8, text.isValidUTF8]

/-! ### Presets -/

/-- The text without a byte order mark at its start. -/
def withoutByteOrderMark (text : String) : String :=
  match text.toList with
  | '\uFEFF' :: rest => String.ofList rest
  | _ => text

/-- Reads a preset from the bytes of a file. -/
def Preset.ofBytes (bytes : ByteArray) : Preset :=
  .parse (withoutByteOrderMark (Text.decodeReplacing bytes))

/-- Loads the preset in a file. -/
def Preset.load (path : String) : Attempt Fault Preset := do
  if ← containsPath path then
    return .ofBytes (← (readFile path).mapFault .file)
  else throw (.presetNotFound path)

/-- Writes a file in place. -/
def writeInPlace (path text : String) : Attempt Fault Unit :=
  (writeFile path text).mapFault fun fault => .presetWrite path fault.message

/-- Moves a temporary file to a path. After a failure that may pass it waits and tries again, as
often as `retries` says; `attempt` counts the attempts that have failed. -/
def persistRetrying (policy : Backoff) (temp : Location) (path : String) (retries : Nat)
    (attempt : UInt32) : Attempt FileFault Unit :=
  match retries with
  | 0 => moveTempFile temp path
  | retries + 1 =>
    tryCatch (moveTempFile temp path) fun fault =>
      if fault.isTransient then do
        pause (policy.delay attempt)
        persistRetrying policy temp path retries (attempt + 1)
      else throw fault

/-- Writes a file through a temporary one in the same directory. When that fails, the temporary file
is removed. -/
def replaceAtomically (policy : Backoff) (path text : String) : Attempt FileFault Unit := do
  let temp ← createTempFile (Path.directory path)
  let steps := do
    writeTempFile temp text
    syncTempFile temp
    persistRetrying policy temp path (policy.attempts.toNat - 1) 0
  tryCatch steps fun fault => do
    removeTempFile temp
    throw fault

/-- Writes a file through a temporary one, and in place when that fails. -/
def writeReplacing (policy : Backoff) (path text : String) : Attempt Fault Unit :=
  tryCatch ((replaceAtomically policy path text).mapFault .file) fun _ => writeInPlace path text

/-- Saves a preset with its header. Directories that are missing are created. -/
def Preset.save (preset : Preset) (path : String) (atomic : Bool) : Attempt Fault Unit := do
  let directory := Path.parent path
  if directory ≠ "" then
    (createDirectories directory).mapFault .file
  let text := preset.render true
  if atomic then writeReplacing {} path text else writeInPlace path text

/-- Saves a preset and only says whether that went well. -/
def Preset.trySave (preset : Preset) (path : String) (atomic : Bool) : Script Bool := do
  return (← (preset.save path atomic).run).isOk

/-! ### Settings and catalogs -/

/-- Loads the settings in a file. A file that cannot be read as text counts as missing. -/
def Settings.load (path : String) : Attempt Fault Settings := do
  let bytes ← (readFile path).mapFault fun _ => .settingsNotFound path
  match strictText bytes with
  | .ok text => .ofExcept (Settings.ofToml text)
  | .error _ => throw (.settingsNotFound path)

/-- Loads the catalog in a file. -/
def Catalog.load (path : String) : Attempt Fault Catalog := do
  if ← containsPath path then
    let bytes ← (readFile path).mapFault .file
    let text ← .ofExcept ((strictText bytes).mapError .file)
    .ofExcept (Catalog.ofToml text)
  else throw (.catalogNotFound path)

end PresetCompiler

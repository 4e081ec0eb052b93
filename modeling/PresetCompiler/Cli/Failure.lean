import PresetCompiler.Fault
import PresetCompiler.Text.Visible

/-! Why a command failed, and how that is reported. -/

namespace PresetCompiler.Cli

/-- Why a command failed. -/
inductive Failure
  | loadingSettings (path : String) (cause : Fault)
  | invalidSettings (path : String) (cause : Fault)
  | validation (cause : Fault)
  | loadingPreset (path : String) (cause : Fault)
  | loadingCatalog (path : String) (cause : Fault)
  | savingPreset (path : String) (cause : Fault)
  | writingPreset (path : String) (cause : FileFault)
  | writingSettings (path : String) (cause : FileFault)
  | occupied (path : String)
  | noPreset
  | noCatalog
  deriving DecidableEq, Repr

/-- The small hexadecimal digits of a number. -/
def hexDigits (n : Nat) : List Char :=
  Nat.toDigits 16 n

/-- A character as it stands in a quoted path: one that cannot be seen by itself is shown by its
code. -/
def quotedChar (c : Char) : List Char :=
  if c = '"' then ['\\', '"']
  else if c = '\\' then ['\\', '\\']
  else if c = '\n' then ['\\', 'n']
  else if c = '\r' then ['\\', 'r']
  else if c = '\t' then ['\\', 't']
  else if c.toNat = 0 then ['\\', '0']
  else if Text.isVisible c then [c]
  else '\\' :: 'u' :: '\x7b' :: hexDigits c.toNat ++ ['\x7d']

/-- A path in quotes. -/
def quotedPath (path : String) : String :=
  String.ofList ('"' :: path.toList.flatMap quotedChar ++ ['"'])

namespace Failure

/-- The reports of a failure and of its causes, outermost first. -/
def chain : Failure → List String
  | loadingSettings path cause => ("Failed to load config from " ++ quotedPath path) :: cause.chain
  | invalidSettings path cause => ("Invalid configuration in " ++ quotedPath path) :: cause.chain
  | validation cause => "Configuration validation failed" :: cause.chain
  | loadingPreset path cause => ("Failed to load preset from " ++ quotedPath path) :: cause.chain
  | loadingCatalog path cause => ("Failed to load catalog from " ++ quotedPath path) :: cause.chain
  | savingPreset path cause => ("Failed to write preset to " ++ quotedPath path) :: cause.chain
  | writingPreset path cause => ["Failed to write preset to " ++ quotedPath path, cause.message]
  | writingSettings path cause => ["Failed to write config to " ++ quotedPath path, cause.message]
  | occupied path => [path ++ " already exists, use --force to overwrite"]
  | noPreset => ["No preset file given and no [general] active_preset configured"]
  | noCatalog => ["No strategy catalog given; pass --catalog or set [catalog] path"]

end Failure

end PresetCompiler.Cli

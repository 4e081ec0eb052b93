/-! What can go wrong outside the text of a preset, and how it is reported. -/

namespace PresetCompiler

/-- Why an operation on a file failed. -/
inductive FileFault
  | notFound
  | notDirectory
  | isDirectory
  | alreadyExists
  | nameTooLong
  | nulInPath
  | notUtf8
  | notPermitted
  | permissionDenied
  | busy
  | textBusy
  | tooManyLinks
  /-- A failure with a report of its own; `absent` says whether it is that of a missing file. -/
  | other (absent : Bool) (report : String)
  deriving DecidableEq, Repr

/-- The report of a failed operation on a file. -/
def FileFault.message : FileFault → String
  | .notFound => "No such file or directory (os error 2)"
  | .notDirectory => "Not a directory (os error 20)"
  | .isDirectory => "Is a directory (os error 21)"
  | .alreadyExists => "File exists (os error 17)"
  | .nameTooLong => "File name too long (os error 36)"
  | .nulInPath => "file name contained an unexpected NUL byte"
  | .notUtf8 => "stream did not contain valid UTF-8"
  | .notPermitted => "Operation not permitted (os error 1)"
  | .permissionDenied => "Permission denied (os error 13)"
  | .busy => "Device or resource busy (os error 16)"
  | .textBusy => "Text file busy (os error 26)"
  | .tooManyLinks => "Too many levels of symbolic links (os error 40)"
  | .other _ report => report

/-- Whether an operation can have failed because another program holds the file open. -/
def FileFault.isTransient : FileFault → Bool
  | .notPermitted | .permissionDenied | .busy | .textBusy => true
  | _ => false

/-- Why an operation on presets, catalogs or settings failed. -/
inductive Fault
  | presetNotFound (path : String)
  | presetWrite (path report : String)
  | settings (report : String)
  | settingsNotFound (path : String)
  | settingsValue (key report : String)
  | catalogNotFound (path : String)
  | catalogEntry (category strategy report : String)
  | file (fault : FileFault)
  /-- A text is no TOML document, or not one of the wanted shape. -/
  | toml
  deriving DecidableEq, Repr

namespace Fault

/-- The report of a failure. -/
def message : Fault → String
  | presetNotFound path => "Preset file not found: " ++ path
  | presetWrite path report => "Failed to write preset '" ++ path ++ "': " ++ report
  | settings report => "Configuration error: " ++ report
  | settingsNotFound path => "Configuration file not found: " ++ path
  | settingsValue key report => "Invalid configuration value for '" ++ key ++ "': " ++ report
  | catalogNotFound path => "Strategy catalog not found: " ++ path
  | catalogEntry category strategy report =>
    "Catalog entry '" ++ category ++ "/" ++ strategy ++ "' is unusable: " ++ report
  | file fault => "I/O error: " ++ fault.message
  | toml => "TOML parsing error"

/-- Whether a failure means that the wanted file is missing. -/
def isNotFound : Fault → Bool
  | presetNotFound _ | settingsNotFound _ | catalogNotFound _ => true
  | file .notFound | file (.other true _) => true
  | _ => false

/-- The reports of a failure and of its causes, outermost first. -/
def chain (fault : Fault) : List String :=
  match fault with
  | file cause => [fault.message, cause.message]
  | _ => [fault.message]

end Fault

end PresetCompiler

import PresetCompiler.Filter.Pass
import PresetCompiler.Filter.PortSet
import PresetCompiler.Preset.Reader

/-! The window size of TCP blocks that cover port 443. -/

namespace PresetCompiler

open Text

/-- Whether a token begins the part of a command line that belongs to one filter. -/
def isBoundary (token : String) : Bool :=
  hasLead ["--filter-"] token || token = separator

/-- Whether a token sets a window size. -/
def setsWindowSize (token : String) : Bool :=
  token = "--wssize" || hasLead ["--wssize=", "--wssize-forced-cutoff"] token

/-- The tokens that set the window size. -/
def windowSizeTokens : List String :=
  ["--wssize", "1:6", "--wssize-forced-cutoff=0"]

/-- The port of web traffic over TLS. -/
def httpsPort : Nat := 443

/-- Whether a token filters TCP traffic on a port set that covers port 443. -/
def coversHttps (wildcard : Bool) (token : String) : Bool :=
  match after? "--filter-tcp=".toList token.toList with
  | some spec => (PortSet.parse (String.ofList spec)).covers wildcard httpsPort
  | none => false

/-- A block with the window size at its end, unless one of its tokens sets one. -/
def closeBlock (block : List String) : List String :=
  if block.any setsWindowSize then block else block ++ windowSizeTokens

/-- Looks for the tokens that filter TCP traffic on port 443, and closes the block of each, which
goes on to the next boundary. -/
def insertWindowSizes (wildcard : Bool) : List String → List String
  | [] => []
  | token :: rest =>
    if coversHttps wildcard token then
      closeBlock (token :: rest.takeWhile fun next => !isBoundary next) ++
        insertWindowSizes wildcard (rest.dropWhile fun next => !isBoundary next)
    else token :: insertWindowSizes wildcard rest
termination_by tokens => tokens.length
decreasing_by
  · exact Nat.lt_succ_of_le (List.dropWhile_sublist _).length_le
  · exact Nat.lt_succ_self _

/-- Sets the window size in every TCP block that covers port 443 and sets none. -/
def TokenPass.wssize (wildcard : Bool) : TokenPass :=
  { name := "wssize", priority := 40, apply := insertWindowSizes wildcard }

end PresetCompiler

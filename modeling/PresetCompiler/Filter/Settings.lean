/-! Which changes of the tokens are wanted. -/

namespace PresetCompiler

/-- The switches of the token filters. -/
structure FilterSettings where
  /-- Drop all host list targeting. -/
  removeHostlists : Bool
  /-- Drop all IP set targeting. -/
  removeIpsets : Bool
  /-- Use the list of all zones in place of the list of other zones. -/
  allzone : Bool
  /-- Set the window size in TCP blocks that cover port 443. -/
  wssize : Bool
  /-- Let the port set `*` count as covering port 443. -/
  wildcardPortMatches : Bool := false
  deriving DecidableEq, Repr

/-- All switches off. -/
def FilterSettings.off : FilterSettings :=
  { removeHostlists := false, removeIpsets := false, allzone := false, wssize := false }

instance : Inhabited FilterSettings := ⟨.off⟩

end PresetCompiler

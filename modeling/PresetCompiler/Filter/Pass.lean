import PresetCompiler.Text.Find

/-! Passes over a token list, and those that change the list files a command line names. -/

namespace PresetCompiler

open Text

/-- The place of a pass that names none. -/
def defaultPriority : Nat := 100

/-- A named change of a token list. Passes of a pipeline run by ascending priority. -/
structure TokenPass where
  name : String
  priority : Nat := defaultPriority
  apply : List String → List String

/-- Whether a token starts with one of several leads. -/
def hasLead (leads : List String) (token : String) : Bool :=
  startsWithAny (leads.map String.toList) token.toList

/-- Beginnings of the tokens that target by host list. -/
def hostlistLeads : List String :=
  ["--hostlist=", "--hostlist-domains=", "--hostlist-exclude="]

/-- Beginnings of the tokens that target by IP set. -/
def ipsetLeads : List String :=
  ["--ipset=", "--ipset-ip=", "--ipset-exclude="]

/-- The tokens without those that start with one of the leads. -/
def dropLeads (leads : List String) (tokens : List String) : List String :=
  tokens.filter fun token => !hasLead leads token

/-- The list of the zones that have no list of their own. -/
def otherList : String := "other.txt"

/-- The list of all zones. -/
def allzoneList : String := "allzone.txt"

/-- A host list token with the list of all zones in place of the list of other zones. -/
def widenToken (token : String) : String :=
  if hasLead ["--hostlist="] token && occursIn otherList.toList token.toList then
    String.ofList (replaceAll otherList.toList allzoneList.toList token.toList)
  else token

namespace TokenPass

/-- Drops host list targeting. -/
def removeHostlists : TokenPass :=
  { name := "remove_hostlists", priority := 10, apply := dropLeads hostlistLeads }

/-- Drops IP set targeting. -/
def removeIpsets : TokenPass :=
  { name := "remove_ipsets", priority := 20, apply := dropLeads ipsetLeads }

/-- Uses the list of all zones in place of the list of other zones. -/
def allzone : TokenPass :=
  { name := "allzone", priority := 30, apply := List.map widenToken }

end TokenPass

end PresetCompiler

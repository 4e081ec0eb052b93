import PresetCompiler.Block.Category
import PresetCompiler.Block.Flag
import PresetCompiler.Text.Lines

/-! The fields of a block, read from its text. Nothing here fails: what is not recognised takes a
default. -/

namespace PresetCompiler

open Text

/-- The ports of a block without a filter flag. -/
def defaultPorts : String := "443"

/-- Beginnings of the lines that choose targets. -/
def framingLeads : List String :=
  ["--filter-", "--hostlist=", "--hostlist-domains=", "--hostlist-exclude=",
    "--ipset=", "--ipset-ip=", "--ipset-exclude="]

/-- What a block targets: its category, the family of the flag that says so, and the list file. -/
structure Target where
  category : String
  targeting : Targeting
  listFile : String
  deriving DecidableEq, Repr

/-- The target named by a list file. -/
def Target.ofFile (targeting : Targeting) (path : List Char) : Target :=
  ⟨categoryOfPath path, targeting, String.ofList path⟩

/-- The target of a block. A host list counts before an IP set, and either before flags that name
their targets themselves. -/
def readTarget (args : List Char) : Target :=
  match flagValue? "hostlist" args with
  | some path => .ofFile .hostlist path
  | none =>
    match flagValue? "ipset" args with
    | some path => .ofFile .ipset path
    | none =>
      if occursIn "--hostlist-domains=".toList args then ⟨unknownCategory, .hostlist, ""⟩
      else if occursIn "--ipset-ip=".toList args then ⟨unknownCategory, .ipset, ""⟩
      else ⟨unknownCategory, .none, ""⟩

/-- The protocol and the ports of a block. An application protocol counts as UDP. -/
def readProtocol (args : List Char) : Protocol × String :=
  match flagValue? "filter-tcp" args with
  | some ports => (.tcp, String.ofList ports)
  | none =>
    match flagValue? "filter-udp" args with
    | some ports => (.udp, String.ofList ports)
    | none =>
      match flagValue? "filter-l7" args with
      | some name => (.udp, String.ofList name)
      | none => (.tcp, defaultPorts)

/-- The lines of a block that do not choose targets. -/
def readStrategyArgs (args : List Char) : String :=
  let kept := (contentLines args).filter fun line =>
    !startsWithAny (framingLeads.map String.toList) line
  String.ofList (joinLines kept)

/-- One parameter, written `name:value` or only `name`. -/
def readParameter (entry : List Char) : String × String :=
  match splitOnce ':' entry with
  | some (name, value) => (String.ofList (trim name), String.ofList (trim value))
  | none => (String.ofList entry, "")

/-- The parameters of the first `--syndata=` flag. Of several with one name the last counts. -/
def readSyndata (args : List Char) : Option (Dictionary String) :=
  (flagValue? "syndata" args).map fun spec =>
    let entries := ((pieces (· == ',') spec).map trim).filter (· ≠ [])
    .ofList (entries.map readParameter)

/-- The block with the given text. One without any targeting flag counts as a host list block. -/
def Block.ofArgs (args : String) : Block :=
  let text := args.toList
  let target := readTarget text
  let (protocol, ports) := readProtocol text
  { category := target.category
    protocol
    targeting := if target.targeting = .none then .hostlist else target.targeting
    listFile := target.listFile
    ports
    args
    strategyArgs := readStrategyArgs text
    syndata := readSyndata text }

end PresetCompiler

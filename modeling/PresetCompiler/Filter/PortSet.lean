import PresetCompiler.Text.Blank

/-! Port sets, as `--filter-tcp=` and `--filter-udp=` take them: entries between commas, each a
port, a range `first-last`, or `*`. -/

namespace PresetCompiler

open Text

/-- One entry of a port set. -/
inductive PortEntry
  | single (port : Nat)
  | range (first last : Nat)
  | any
  deriving DecidableEq, Repr

/-- The value of a run of decimal digits, which must not be empty. -/
def digits? (text : List Char) : Option Nat :=
  if text ≠ [] ∧ text.all (fun c => '0' ≤ c && c ≤ '9') then
    some (text.foldl (fun n c => 10 * n + (c.toNat - '0'.toNat)) 0)
  else none

/-- The greatest port. -/
def maxPort : Nat := 65535

/-- Reads a port number: decimal digits after at most one plus sign, and a value in range. -/
def port? (text : List Char) : Option Nat :=
  let digits := match text with
    | '+' :: rest => rest
    | _ => text
  (digits? digits).filter (· ≤ maxPort)

namespace PortEntry

/-- Reads one entry. -/
def read? (entry : List Char) : Option PortEntry :=
  let entry := trim entry
  if entry = ['*'] then some .any
  else
    match splitOnce '-' entry with
    | some (first, last) =>
      match port? (trim first), port? (trim last) with
      | some first, some last => some (.range first last)
      | _, _ => none
    | none => (port? entry).map .single

/-- Whether an entry covers a port, `*` doing so when `wildcard` holds. -/
def covers (wildcard : Bool) (port : Nat) : PortEntry → Bool
  | .single p => p == port
  | .range first last => first ≤ port && port ≤ last
  | .any => wildcard

end PortEntry

/-- A port set as its entries. -/
structure PortSet where
  entries : List PortEntry
  deriving DecidableEq, Repr

namespace PortSet

/-- Reads a port set. Entries that cannot be read are left out. -/
def parse (spec : String) : PortSet :=
  ⟨(pieces (· == ',') spec.toList).filterMap PortEntry.read?⟩

/-- Whether `*` is an entry. -/
def hasWildcard (ports : PortSet) : Bool :=
  ports.entries.contains .any

/-- Whether an entry covers a port, `*` doing so when `wildcard` holds. -/
def covers (ports : PortSet) (wildcard : Bool) (port : Nat) : Bool :=
  ports.entries.any (PortEntry.covers wildcard port)

end PortSet

end PresetCompiler

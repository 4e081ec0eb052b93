import PresetCompiler.Toml.Value

/-! Tables under construction, with their entries in the order of the document. TOML lets a table be
opened once, by a header or by dotted keys, and not by both; a table that is only passed through on
the way to another may still be opened. -/

namespace PresetCompiler.Toml

/-- How a table came into being. -/
inductive TableKind
  /-- Opened by a header of its own. -/
  | explicit
  /-- Passed through by the header of another table. -/
  | passed
  /-- Opened by a dotted key. -/
  | dotted
  deriving DecidableEq, Repr

/-- What stands at a key of a table under construction. -/
inductive Node
  | value (value : Value)
  | table (kind : TableKind) (entries : List (String × Node))
  /-- A table for every header written in double brackets. -/
  | tables (items : List (List (String × Node)))

/-- Puts a node at a key, in place of the one that is there or else behind the others. -/
def putEntry (key : String) (node : Node) : List (String × Node) → List (String × Node)
  | [] => [(key, node)]
  | (k, n) :: rest => if k = key then (key, node) :: rest else (k, n) :: putEntry key node rest

/-- A key has the node that was put there, and the other keys keep theirs. -/
theorem lookup_putEntry (key other : String) (node : Node) (entries : List (String × Node)) :
    (putEntry key node entries).lookup other =
      if other = key then some node else entries.lookup other := by
  induction entries with
  | nil =>
    by_cases h : other = key
    · simp [putEntry, h]
    · simp [putEntry, h, List.lookup_cons, beq_false_of_ne h]
  | cons entry rest ih =>
    obtain ⟨k, n⟩ := entry
    simp only [putEntry]
    split
    · rename_i hk
      subst hk
      by_cases h : other = k
      · simp [h]
      · simp [h, List.lookup_cons, beq_false_of_ne h]
    · rename_i hk
      by_cases h : other = k
      · subst h
        simp [hk]
      · simp only [List.lookup_cons, beq_false_of_ne h, ih]

/-- An edit of one table, which may be refused. -/
abbrev TableEdit := TableKind → List (String × Node) → Option (List (String × Node))

/-- Applies an edit to the table at the end of a path. A dotted path may not pass through a table
that has a header of its own; of tables in double brackets the last is meant. -/
def editAt (dotted : Bool) (edit : TableEdit) : List String → TableEdit
  | [], kind, entries => edit kind entries
  | key :: path, _, entries =>
    match entries.lookup key with
    | none => do
      let kind := if dotted then .dotted else .passed
      let inner ← editAt dotted edit path kind []
      return putEntry key (.table kind inner) entries
    | some (.value _) => none
    | some (.table kind inner) => do
      if dotted ∧ kind = .explicit then none
      let inner ← editAt dotted edit path kind inner
      return putEntry key (.table kind inner) entries
    | some (.tables items) => do
      let last ← items.getLast?
      let inner ← editAt dotted edit path .explicit last
      return putEntry key (.tables (items.dropLast ++ [inner])) entries

/-- Adds a value at a key that has none. The table must be a dotted one exactly when the key has a
dotted path before it. -/
def addKey (path : List String) (key : String) (value : Value) : TableEdit :=
  editAt true (fun kind entries =>
    if kind = .dotted ∧ path = [] ∨ kind ≠ .dotted ∧ path ≠ [] then none
    else
      match entries.lookup key with
      | some _ => none
      | none => some (putEntry key (.value value) entries)) path

/-- Opens a table by its header, which is where the table stands among the others. -/
def openTable (key : String) : TableEdit := fun _ entries =>
  match entries.lookup key with
  | none => some (putEntry key (.table .explicit []) entries)
  | some (.table .passed inner) =>
    some (putEntry key (.table .explicit inner) (entries.filter (·.1 ≠ key)))
  | some _ => none

/-- Opens one more table by its header in double brackets. -/
def openElement (key : String) : TableEdit := fun _ entries =>
  match entries.lookup key with
  | none => some (putEntry key (.tables [[]]) entries)
  | some (.tables items) => some (putEntry key (.tables (items ++ [[]])) entries)
  | some _ => none

mutual

/-- The value that was constructed. -/
def Node.toValue : Node → Value
  | .value value => value
  | .table _ entries => .table (entriesToValues entries)
  | .tables items => .array (itemsToValues items)

/-- The values of the entries of a table. -/
def entriesToValues : List (String × Node) → List (String × Value)
  | [] => []
  | (key, node) :: rest => (key, node.toValue) :: entriesToValues rest

/-- The values of tables in double brackets. -/
def itemsToValues : List (List (String × Node)) → List Value
  | [] => []
  | entries :: rest => .table (entriesToValues entries) :: itemsToValues rest

end

end PresetCompiler.Toml

import PresetCompiler.Strategy.Matching
import PresetCompiler.Toml.Canonical
import PresetCompiler.Toml.Reader
import PresetCompiler.Toml.Writer

/-! Catalogs of strategies. An entry is the argument text of a strategy, or a table that holds it at
`args`; an entry of another kind makes only its own strategy unusable. -/

namespace PresetCompiler

open Toml

/-- The strategies of every category, by name. -/
structure Catalog where
  categories : Dictionary (Dictionary Value)

namespace Catalog

/-- The catalog without categories. -/
def empty : Catalog := ⟨.empty⟩

instance : Inhabited Catalog := ⟨empty⟩
instance : BEq Catalog := ⟨fun a b => a.categories == b.categories⟩

/-- The entry of a strategy. -/
def entry? (catalog : Catalog) (category id : String) : Option Value :=
  (catalog.categories.get? category).bind fun entries => entries.get? id

/-- The categories in ascending order. -/
def keys (catalog : Catalog) : List String :=
  catalog.categories.keys

/-- The strategies of a category in ascending order. -/
def ids (catalog : Catalog) (category : String) : List String :=
  match catalog.categories.get? category with
  | some entries => entries.keys
  | none => []

/-- The argument text of an entry, or what makes it unusable. -/
def entryArgs (entry : Option Value) : Except String String :=
  match entry with
  | none => .error "no such strategy"
  | some (.string args) => .ok args
  | some (.table entries) =>
    match entries.lookup "args" with
    | some (.string args) => .ok args
    | some _ => .error "'args' is not a string"
    | none => .error "missing 'args'"
  | some other => .error ("expected string or table, found " ++ other.typeName)

/-- The argument text of a strategy. -/
def args (catalog : Catalog) (category id : String) : Except Fault String :=
  (entryArgs (catalog.entry? category id)).mapError fun report =>
    .catalogEntry category id report

/-- The name under which a strategy is shown: the one its entry gives, or else its identifier. -/
def displayName? (catalog : Catalog) (category id : String) : Option String :=
  (catalog.entry? category id).map fun entry =>
    ((entry.get? "name").bind Value.text?).getD id

/-- The catalog with a strategy of the given argument text. -/
def insert (catalog : Catalog) (category id args : String) : Catalog :=
  let entries := (catalog.categories.get? category).getD .empty
  ⟨catalog.categories.insert category (entries.insert id (.string args))⟩

/-- The catalog as a place where strategies are looked up. -/
def source (catalog : Catalog) : StrategySource :=
  ⟨catalog.ids, catalog.args⟩

/-- The entries of one category of a document. -/
def categoryOf (value : Value) : Option (Dictionary Value) := do
  let entries ← (← value.entries?).mapM fun (id, entry) => do return (id, ← entry.canonical?)
  return .ofList entries

/-- The entries of the categories of a document. -/
def categoriesOf (value : Value) : Option (Dictionary (Dictionary Value)) := do
  let categories ← (← value.entries?).mapM fun (key, value) => do
    return (key, ← categoryOf value)
  return .ofList categories

/-- Reads a catalog from a TOML document. -/
def ofToml (document : String) : Except Fault Catalog :=
  let catalog := do
    match (← readDocument? document).lookup "categories" with
    | some value => return ⟨← categoriesOf value⟩
    | none => return empty
  match catalog with
  | some catalog => .ok catalog
  | none => .error .toml

/-- The TOML document of a catalog. -/
def toToml (catalog : Catalog) : String :=
  let tables := catalog.categories.entries.map fun (key, entries) =>
    (key, Value.table entries.entries)
  writeDocument [("categories", .table tables)]

end Catalog

end PresetCompiler

import PresetCompiler.Dictionary
import PresetCompiler.Toml.Value

/-! Values without the marks of how a document writes them: the entries of every table are in key
order, and a table that stands for a date-time is that date-time. -/

namespace PresetCompiler.Toml

/-- What the first entry of a table holds, when its key is the one of date-times. -/
def dateTimeEntry? : List (String × Value) → Option Value
  | [] => none
  | (key, value) :: _ => if key = Value.dateTimeKey then some value else none

mutual

/-- The canonical form of a value. A table whose first key is the one of date-times has none unless
it holds the text of a date-time there; what else the table holds does not count. -/
def Value.canonical? : Value → Option Value
  | .array items => (canonicalItems? items).map .array
  | .table entries =>
    match dateTimeEntry? entries with
    | some value => (value.text?.bind DateTime.ofText?).map .dateTime
    | none => (canonicalEntries? entries).map .table
  | value => some value

/-- The canonical forms of the items of an array. -/
def canonicalItems? : List Value → Option (List Value)
  | [] => some []
  | item :: rest => do return (← item.canonical?) :: (← canonicalItems? rest)

/-- The canonical forms of the entries of a table, in key order. -/
def canonicalEntries? : List (String × Value) → Option (List (String × Value))
  | [] => some []
  | (key, value) :: rest => do
    let value ← value.canonical?
    return insertEntry key value (← canonicalEntries? rest)

end

/-- The entries of canonical tables are in key order. -/
theorem ascending_of_canonicalEntries? {entries sorted : List (String × Value)}
    (h : canonicalEntries? entries = some sorted) : Ascending sorted := by
  induction entries generalizing sorted with
  | nil =>
    simp only [canonicalEntries?, Option.some.injEq] at h
    subst h
    exact List.Pairwise.nil
  | cons entry rest ih =>
    obtain ⟨key, value⟩ := entry
    simp only [canonicalEntries?, Option.bind_eq_bind, Option.bind_eq_some_iff, Option.pure_def,
      Option.some.injEq] at h
    obtain ⟨value', -, tail, hTail, rfl⟩ := h
    exact (ih hTail).insertEntry key value'

end PresetCompiler.Toml

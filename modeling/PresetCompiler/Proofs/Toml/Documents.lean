import PresetCompiler.Proofs.Toml.Lines

/-! Documents of plain tables are read back. The tables stand side by side, in the document itself
or within tables that hold nothing else: the tables in front. A table in front has no header of its
own, so in the draft it appears when the first header passes through it. -/

namespace PresetCompiler.Toml

/-- A table of texts and flags with its name. -/
abbrev NamedTable := String × List (String × Value)

variable {front : List String} {tables done todo : List NamedTable} {key : String}
  {entries : List (String × Value)} {rest : List Char} {final : Draft}

/-- The keys of a table differ, and its values are texts and flags. -/
def IsPlainTable (table : NamedTable) : Prop :=
  (table.2.map Prod.fst).Nodup ∧ ∀ entry ∈ table.2, entry.2.IsPlain

/-- Tables as the entries of the table that holds them. -/
def tableValues (tables : List NamedTable) : List (String × Value) :=
  tables.map fun table => (table.1, .table table.2)

/-- Entries behind the tables in front of them. -/
def nest : List String → List (String × Value) → List (String × Value)
  | [], entries => entries
  | key :: front, entries => [(key, .table (nest front entries))]

/-! ### What is written -/

/-- The section of a table. -/
def tableSection (front : List String) (table : NamedTable) : Section :=
  ⟨front ++ [table.1], false, table.2⟩

theorem plainEntries_of_isPlain (h : ∀ entry ∈ entries, entry.2.IsPlain) :
    plainEntries entries = entries := by
  refine List.filter_eq_self.2 fun entry hEntry => ?_
  have hPlain := h entry hEntry
  cases hValue : entry.2 <;> simp_all [Value.IsPlain, Value.isSections]

theorem entrySections_of_isPlain (path : List String) (h : ∀ entry ∈ entries, entry.2.IsPlain) :
    entrySections path entries = [] := by
  induction entries with
  | nil => rfl
  | cons entry entries ih =>
    have hPlain := h entry List.mem_cons_self
    rw [entrySections, ih fun e he => h e (List.mem_cons_of_mem _ he)]
    cases hValue : entry.2 <;> simp_all [Value.IsPlain, Value.sections]

theorem sections_of_isPlainTable (path : List String) {table : NamedTable}
    (h : IsPlainTable table) :
    (Value.table table.2).sections path = [⟨path, false, table.2⟩] := by
  rw [Value.sections, plainEntries_of_isPlain h.2, entrySections_of_isPlain path h.2]
  have hOwn : table.2 ≠ [] ∨ table.2 = [] := (Classical.em _).symm
  simp [hOwn]

theorem plainEntries_tableValues (tables : List NamedTable) :
    plainEntries (tableValues tables) = [] := by
  refine List.filter_eq_nil_iff.2 fun entry hEntry => ?_
  obtain ⟨table, -, rfl⟩ := List.mem_map.1 hEntry
  simp [Value.isSections]

theorem entrySections_tableValues (path : List String) (h : ∀ table ∈ tables, IsPlainTable table) :
    entrySections path (tableValues tables) = tables.map (tableSection path) := by
  induction tables with
  | nil => rfl
  | cons table tables ih =>
    have hRest := ih fun t ht => h t (List.mem_cons_of_mem _ ht)
    rw [tableValues] at hRest
    rw [tableValues, List.map_cons, entrySections, hRest,
      sections_of_isPlainTable _ (h table List.mem_cons_self)]
    rfl

theorem plainEntries_nest (front : List String) (tables : List NamedTable) :
    plainEntries (nest front (tableValues tables)) = [] := by
  cases front with
  | nil => exact plainEntries_tableValues tables
  | cons key front => rfl

theorem nest_ne_nil (front : List String) (h : tables ≠ []) :
    nest front (tableValues tables) ≠ [] := by
  cases front with
  | nil => simpa [nest, tableValues] using h
  | cons key front => simp [nest]

/-- Tables in front have no sections of their own unless there is nothing behind them. -/
theorem entrySections_nest (path : List String) (hFront : front = [] ∨ tables ≠ [])
    (h : ∀ table ∈ tables, IsPlainTable table) :
    entrySections path (nest front (tableValues tables)) =
      tables.map (tableSection (path ++ front)) := by
  induction front generalizing path with
  | nil => simpa [nest] using entrySections_tableValues path h
  | cons key front ih =>
    have hTables : tables ≠ [] := by simpa using hFront
    rw [nest, entrySections, entrySections, Value.sections, plainEntries_nest,
      ih (path ++ [key]) (.inr hTables), List.append_assoc]
    simp [nest_ne_nil front hTables]

theorem writeDocument_nest (hFront : front = [] ∨ tables ≠ [])
    (h : ∀ table ∈ tables, IsPlainTable table) :
    (writeDocument (nest front (tableValues tables))).toList =
      List.intercalate ['\n'] (tables.map fun table => (tableSection front table).write) := by
  rw [writeDocument, documentSections, plainEntries_nest, entrySections_nest [] hFront h]
  simp [Function.comp_def]

theorem tableSection_write (front : List String) (table : NamedTable) :
    (tableSection front table).write =
      '[' :: (List.intercalate ['.'] ((front ++ [table.1]).map writeKey) ++ ']' :: '\n' ::
        table.2.flatMap fun entry => writeEntry (writeKey entry.1, entry.2.write) ++ ['\n']) := by
  simp [Section.write, Section.header, tableSection]

/-! ### What is read -/

/-- The nodes of values. -/
def valueNodes (entries : List (String × Value)) : List (String × Node) :=
  entries.map fun entry => (entry.1, .value entry.2)

/-- The nodes of tables with headers of their own. -/
def tableNodes (tables : List NamedTable) : List (String × Node) :=
  tables.map fun table => (table.1, .table .explicit (valueNodes table.2))

/-- Nodes behind the tables in front of them, which were passed. -/
def passedNodes : List String → List (String × Node) → List (String × Node)
  | [], nodes => nodes
  | key :: front, nodes => [(key, .table .passed (passedNodes front nodes))]

/-- The entries of a draft with some tables, none when no header was read. -/
def draftNodes (front : List String) (tables : List NamedTable) : List (String × Node) :=
  if tables = [] then [] else passedNodes front (tableNodes tables)

theorem putEntry_append {nodes : List (String × Node)} (node : Node) (more : List (String × Node))
    (h : nodes.lookup key = none) :
    putEntry key node (nodes ++ more) = nodes ++ putEntry key node more := by
  induction nodes with
  | nil => rfl
  | cons entry nodes ih =>
    obtain ⟨k, n⟩ := entry
    have hNe : key ≠ k := by
      rintro rfl
      simp at h
    rw [List.lookup_cons, beq_false_of_ne hNe] at h
    rw [List.cons_append, putEntry, if_neg (Ne.symm hNe), ih h, List.cons_append]

/-- A node with a new key is put at the end. -/
theorem putEntry_of_lookup_eq_none {nodes : List (String × Node)} {node : Node}
    (h : nodes.lookup key = none) : putEntry key node nodes = nodes ++ [(key, node)] := by
  have hEnd := putEntry_append node [] h
  rwa [List.append_nil] at hEnd

theorem editAt_append (dotted : Bool) (edit : TableEdit) (path path' : List String) :
    editAt dotted edit (path ++ path') = editAt dotted (editAt dotted edit path') path := by
  induction path with
  | nil => rfl
  | cons key path ih =>
    funext kind nodes
    simp only [List.cons_append, editAt, ih]

/-- The first edit behind the tables in front makes them. -/
theorem editAt_nil {edit : TableEdit} {nodes : List (String × Node)} (kind : TableKind)
    (hEdit : ∀ kind, edit kind [] = some nodes) :
    editAt false edit front kind [] = some (passedNodes front nodes) := by
  induction front generalizing kind with
  | nil => exact hEdit kind
  | cons key front ih => simp [editAt, ih, putEntry, passedNodes]

theorem editAt_passedNodes {edit : TableEdit} {nodes nodes' : List (String × Node)}
    (kind : TableKind) (hEdit : ∀ kind, edit kind nodes = some nodes') :
    editAt false edit front kind (passedNodes front nodes) = some (passedNodes front nodes') := by
  induction front generalizing kind with
  | nil => exact hEdit kind
  | cons key front ih => simp [editAt, ih, putEntry, passedNodes]

theorem lookup_eq_none_of_notMem {nodes : List (String × α)} (h : key ∉ nodes.map Prod.fst) :
    nodes.lookup key = none := by
  refine List.lookup_eq_none_iff.2 fun entry hEntry => ?_
  have hNe : key ≠ entry.1 := by
    rintro rfl
    exact h (List.mem_map_of_mem hEntry)
  simpa using hNe

theorem notMem_of_nodup_keys {before after : List (String × α)} {entry : String × α}
    (h : ((before ++ entry :: after).map Prod.fst).Nodup) : entry.1 ∉ before.map Prod.fst := by
  rw [List.map_append, List.map_cons] at h
  intro hMem
  exact (List.nodup_append.1 h).2.2 _ hMem _ List.mem_cons_self rfl

theorem lookup_tableNodes (h : key ∉ tables.map Prod.fst) :
    (tableNodes tables).lookup key = none := by
  apply lookup_eq_none_of_notMem
  simpa [tableNodes, Function.comp_def] using h

theorem tableNodes_append (tables more : List NamedTable) :
    tableNodes (tables ++ more) = tableNodes tables ++ tableNodes more := by
  simp [tableNodes]

/-- The header of a new table opens it, empty, behind the others. -/
theorem open?_draftNodes (current : List String) (hKey : key ∉ done.map Prod.fst) :
    Draft.open? ⟨draftNodes front done, current⟩ ⟨front, key⟩ =
      some ⟨passedNodes front (tableNodes (done ++ [(key, [])])), front ++ [key]⟩ := by
  have hOpen (kind : TableKind) : openTable key kind (tableNodes done) =
      some (tableNodes (done ++ [(key, [])])) := by
    rw [openTable, lookup_tableNodes hKey, putEntry_of_lookup_eq_none (lookup_tableNodes hKey),
      tableNodes_append]
    rfl
  have hEdit : editAt false (openTable key) front .explicit (draftNodes front done) =
      some (passedNodes front (tableNodes (done ++ [(key, [])]))) := by
    rw [draftNodes]
    -- the first header makes the tables in front, and the others find them
    split
    · rename_i hDone
      subst hDone
      exact editAt_nil .explicit hOpen
    · exact editAt_passedNodes .explicit hOpen
  simp [Draft.open?, hEdit]

/-- A value with a new key is added at the end of the open table. -/
theorem add?_passedNodes {name : String} (value : Value) (hName : name ∉ done.map Prod.fst)
    (hKey : key ∉ entries.map Prod.fst) :
    Draft.add? ⟨passedNodes front (tableNodes (done ++ [(name, entries)])), front ++ [name]⟩
        ⟨[], key⟩ value =
      some ⟨passedNodes front (tableNodes (done ++ [(name, entries ++ [(key, value)])])),
        front ++ [name]⟩ := by
  have hFresh : (valueNodes entries).lookup key = none := by
    apply lookup_eq_none_of_notMem
    simpa [valueNodes, Function.comp_def] using hKey
  have hAdd (kind : TableKind) :
      editAt false (addKey [] key value) [name] kind (tableNodes (done ++ [(name, entries)])) =
        some (tableNodes (done ++ [(name, entries ++ [(key, value)])])) := by
    have hTable : (tableNodes (done ++ [(name, entries)])).lookup name =
        some (.table .explicit (valueNodes entries)) := by
      rw [tableNodes_append, List.lookup_append, lookup_tableNodes hName]
      simp [tableNodes]
    have hValue : addKey [] key value .explicit (valueNodes entries) =
        some (valueNodes (entries ++ [(key, value)])) := by
      have hAppend : valueNodes (entries ++ [(key, value)]) =
          valueNodes entries ++ [(key, .value value)] := by simp [valueNodes]
      simp [addKey, editAt, hFresh, putEntry_of_lookup_eq_none hFresh, hAppend]
    have hPut (node : Node) : putEntry name node (tableNodes (done ++ [(name, entries)])) =
        tableNodes done ++ [(name, node)] := by
      rw [tableNodes_append, putEntry_append node _ (lookup_tableNodes hName)]
      simp [tableNodes, putEntry]
    simp only [editAt, hTable, hValue, hPut]
    simp [tableNodes]
  have hEdit : editAt false (addKey [] key value) (front ++ [name]) .explicit
        (passedNodes front (tableNodes (done ++ [(name, entries)]))) =
      some (passedNodes front (tableNodes (done ++ [(name, entries ++ [(key, value)])]))) := by
    rw [editAt_append]
    exact editAt_passedNodes .explicit hAdd
  simp [Draft.add?, hEdit]

/-- The lines of a table after its header, some of which are read already. -/
theorem reads_entries {name : String} (before after : List (String × Value))
    (hName : name ∉ done.map Prod.fst) (hTable : IsPlainTable (name, before ++ after))
    (h : Draft.Reads ⟨passedNodes front (tableNodes (done ++ [(name, before ++ after)])),
      front ++ [name]⟩ rest final) :
    Draft.Reads ⟨passedNodes front (tableNodes (done ++ [(name, before)])), front ++ [name]⟩
      ((after.flatMap fun entry => writeEntry (writeKey entry.1, entry.2.write) ++ ['\n']) ++ rest)
      final := by
  induction after generalizing before with
  | nil => simpa using h
  | cons entry after ih =>
    have hSplit : before ++ entry :: after = before ++ [entry] ++ after := by simp
    have hPlain : entry.2.IsPlain := hTable.2 entry (by simp)
    have hFresh : entry.1 ∉ before.map Prod.fst := notMem_of_nodup_keys hTable.1
    rw [hSplit] at hTable h
    rw [List.flatMap_cons, List.append_assoc, List.append_assoc, List.singleton_append]
    exact (ih _ hTable h).entry hPlain (add?_passedNodes entry.2 hName hFresh)

/-- A section is read as its table, behind those that are read already. -/
theorem reads_section {table : NamedTable} {current : List String}
    (hFront : front.length + 1 < depthLimit) (hName : table.1 ∉ done.map Prod.fst)
    (hTable : IsPlainTable table)
    (h : Draft.Reads ⟨draftNodes front (done ++ [table]), front ++ [table.1]⟩ rest final) :
    Draft.Reads ⟨draftNodes front done, current⟩ ((tableSection front table).write ++ rest)
      final := by
  have hEntries : Draft.Reads ⟨passedNodes front (tableNodes (done ++ [(table.1, [])])),
      front ++ [table.1]⟩ _ final :=
    reads_entries [] table.2 hName hTable (by simpa [draftNodes] using h)
  have hHeader := hEntries.header hFront (open?_draftNodes current hName)
  rw [tableSection_write]
  simpa using hHeader

/-- The sections of a document, one after the other with an empty line between two. -/
theorem reads_sections (done todo : List NamedTable) (current : List String)
    (hFront : front.length + 1 < depthLimit) (hNames : ((done ++ todo).map Prod.fst).Nodup)
    (hTables : ∀ table ∈ todo, IsPlainTable table) :
    ∃ current', Draft.Reads ⟨draftNodes front done, current⟩
      (List.intercalate ['\n'] (todo.map fun table => (tableSection front table).write))
      ⟨draftNodes front (done ++ todo), current'⟩ := by
  -- every table moves from those to come to those that the draft holds
  induction todo generalizing done current with
  | nil =>
    refine ⟨current, ?_⟩
    simpa using Draft.Reads.nil ⟨draftNodes front done, current⟩
  | cons table todo ih =>
    have hSplit : done ++ table :: todo = done ++ [table] ++ todo := by simp
    have hTable : IsPlainTable table := hTables table List.mem_cons_self
    have hName : table.1 ∉ done.map Prod.fst := notMem_of_nodup_keys hNames
    rw [hSplit] at hNames ⊢
    obtain ⟨current', hRest⟩ := ih (done ++ [table]) (front ++ [table.1]) hNames
      fun t ht => hTables t (List.mem_cons_of_mem _ ht)
    refine ⟨current', ?_⟩
    cases todo with
    | nil =>
      rw [List.map_singleton, List.intercalate_singleton]
      rw [List.map_nil, List.intercalate_nil, List.append_nil] at hRest
      simpa using reads_section hFront hName hTable hRest
    | cons table' todo =>
      rw [List.map_cons, List.intercalate_cons_of_ne_nil (by simp), List.append_assoc]
      exact reads_section hFront hName hTable hRest.emptyLine

/-! ### Whole documents -/

theorem entriesToValues_valueNodes (entries : List (String × Value)) :
    entriesToValues (valueNodes entries) = entries := by
  induction entries with
  | nil => rfl
  | cons entry entries ih =>
    rw [valueNodes, List.map_cons, ← valueNodes, entriesToValues, ih]
    rfl

theorem entriesToValues_tableNodes (tables : List NamedTable) :
    entriesToValues (tableNodes tables) = tableValues tables := by
  induction tables with
  | nil => rfl
  | cons table tables ih =>
    rw [tableNodes, List.map_cons, ← tableNodes, entriesToValues, ih, Node.toValue,
      entriesToValues_valueNodes]
    rfl

theorem entriesToValues_passedNodes (front : List String) (tables : List NamedTable) :
    entriesToValues (passedNodes front (tableNodes tables)) = nest front (tableValues tables) := by
  induction front with
  | nil => exact entriesToValues_tableNodes tables
  | cons key front ih => simp [passedNodes, entriesToValues, Node.toValue, nest, ih]

theorem draftNodes_eq (hFront : front = [] ∨ tables ≠ []) :
    draftNodes front tables = passedNodes front (tableNodes tables) := by
  rw [draftNodes]
  split
  · rename_i hTables
    have hNil : front = [] := hFront.resolve_right fun hNot => hNot hTables
    simp [hNil, hTables, passedNodes, tableNodes]
  · rfl

/-- A document of plain tables is read back as it was written. -/
theorem readDocument?_writeDocument (hFront : front = [] ∨ tables ≠ [])
    (hDepth : front.length + 1 < depthLimit) (hNames : (tables.map Prod.fst).Nodup)
    (hTables : ∀ table ∈ tables, IsPlainTable table) :
    readDocument? (writeDocument (nest front (tableValues tables))) =
      some (nest front (tableValues tables)) := by
  have hText := writeDocument_nest hFront hTables
  generalize writeDocument (nest front (tableValues tables)) = document at hText ⊢
  obtain ⟨current, hReads⟩ := reads_sections [] tables [] hDepth hNames hTables
  rw [List.nil_append, ← hText] at hReads
  have hMark : document.toList.head? ≠ some '\uFEFF' := by
    rw [hText]
    match tables with
    | [] => simp
    | [table] => simp [tableSection_write]
    | table :: table' :: tables =>
      rw [List.map_cons, List.intercalate_cons_of_ne_nil (by simp), tableSection_write]
      simp
  rw [readDocument?]
  simp only [hMark, if_false]
  rw [show Draft.empty = ⟨draftNodes front [], []⟩ from rfl, hReads _ (by omega)]
  simp [draftNodes_eq hFront, entriesToValues_passedNodes]

end PresetCompiler.Toml

import PresetCompiler.FileTree.Path

/-! Locations, and tables of what stands where, whatever the kinds of things that stand there. -/

namespace PresetCompiler

/-- The names on the way from the root to a file or directory. -/
abbrev Location := List String

namespace Location

/-- The location of a name in the directory at a location. The root is its own parent. -/
def enter (here : Location) (name : String) : Except FileFault Location :=
  if name = "." then .ok here
  else if name = ".." then .ok here.dropLast
  else if Path.maxNameBytes < name.utf8ByteSize then .error .nameTooLong
  else .ok (here ++ [name])

/-- Where a path starts from that is followed from a directory. -/
def origin (here : Location) (path : String) : Location :=
  if Path.isAbsolute path then [] else here

/-- The path of a location. -/
def path (location : Location) : String :=
  "/" ++ "/".intercalate location

end Location

section Entries

variable {ν : Type}

/-- Puts a node at a location, in place of what stands there. -/
def setEntry (location : Location) (node : ν) : List (Location × ν) → List (Location × ν)
  | [] => [(location, node)]
  | (l, n) :: rest =>
    if l = location then (location, node) :: rest else (l, n) :: setEntry location node rest

/-- Takes away what stands at a location. -/
def dropEntry (location : Location) (entries : List (Location × ν)) : List (Location × ν) :=
  entries.filter fun entry => entry.1 ≠ location

theorem lookup_setEntry (location other : Location) (node : ν) (entries : List (Location × ν)) :
    (setEntry location node entries).lookup other =
      if other = location then some node else entries.lookup other := by
  induction entries with
  | nil =>
    by_cases h : other = location
    · simp [setEntry, h]
    · simp [setEntry, h, List.lookup_cons, beq_false_of_ne h]
  | cons entry rest ih =>
    obtain ⟨l, n⟩ := entry
    simp only [setEntry]
    split
    · rename_i hl
      subst hl
      by_cases h : other = l
      · simp [h]
      · simp [h, List.lookup_cons, beq_false_of_ne h]
    · rename_i hl
      by_cases h : other = l
      · subst h
        simp [hl]
      · simp only [List.lookup_cons, beq_false_of_ne h, ih]

theorem lookup_filter_fst (keep : Location → Bool) (place : Location)
    (entries : List (Location × ν)) :
    (entries.filter fun entry => keep entry.1).lookup place =
      if keep place then entries.lookup place else none := by
  induction entries with
  | nil => simp
  | cons entry rest ih =>
    obtain ⟨first, node⟩ := entry
    rw [List.filter_cons]
    by_cases hSame : place = first
    · subst hSame
      cases hKeep : keep place with
      | true => simp
      | false => simpa [hKeep] using ih
    · have hSkip (others : List (Location × ν)) :
          ((first, node) :: others).lookup place = others.lookup place := by
        rw [List.lookup_cons, beq_false_of_ne hSame]
      rw [hSkip]
      split
      · rw [hSkip, ih]
      · exact ih

theorem lookup_dropEntry (location other : Location) (entries : List (Location × ν)) :
    (dropEntry location entries).lookup other =
      if other = location then none else entries.lookup other := by
  have hLookup := lookup_filter_fst (fun place => decide (place ≠ location)) other entries
  by_cases h : other = location
  · simpa [dropEntry, h] using hLookup
  · simpa [dropEntry, h] using hLookup

end Entries

/-! ### Names for temporary files -/

/-- How many names are tried for a temporary file. -/
def maxTempNames : Nat := 65536

/-- A name for a temporary file. -/
def tempName (n : Nat) : String :=
  ".tmp" ++ toString (100000 + n)

/-- One of several names for temporary files that is not taken, if there is one. -/
def freeTempName? (taken : String → Bool) : Nat → Option String
  | 0 => none
  | n + 1 => if taken (tempName n) then freeTempName? taken n else some (tempName n)

theorem not_taken_of_freeTempName? {taken : String → Bool} {n : Nat} {name : String}
    (h : freeTempName? taken n = some name) : taken name = false := by
  induction n with
  | zero => contradiction
  | succ n ih =>
    rw [freeTempName?] at h
    split at h
    · exact ih h
    · rename_i hFree
      rw [← Option.some.inj h]
      exact Bool.eq_false_iff.mpr hFree

end PresetCompiler

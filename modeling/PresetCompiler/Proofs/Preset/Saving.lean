import PresetCompiler.Proofs.FileTree.Attempts
import PresetCompiler.Proofs.FileTree.Writing
import PresetCompiler.Proofs.Preset.RoundTrip
import PresetCompiler.Proofs.Text.Words

/-! Saving presets, and loading what was saved. On a tree a preset is written whole or not at all,
in both ways of saving (`Preset.allOrNothing_save`). What was read from a document and saved is
loaded as its canonical document is read, since that document never begins with a byte order mark
(`Preset.ofBytes_render_parse`). -/

namespace PresetCompiler

open Script Text

/-! ### Whole or not at all -/

/-- An attempt to write a file has ended: it did so, or every file is as it was. -/
structure AllOrNothing {ε α : Type} (path : String) (bytes : ByteArray) (before : FileTree)
    (ended : Except ε α × FileTree) : Prop where
  wrote : ended.1.isOk = true → FileTree.Wrote path bytes before ended.2
  kept : ended.1.isOk = false → FileTree.SameFiles before ended.2

namespace AllOrNothing

variable {ε ε' α : Type} {path : String} {bytes : ByteArray} {before after : FileTree}

theorem of_ok (h : FileTree.Wrote path bytes before after) (value : α) :
    AllOrNothing path bytes before ((.ok value : Except ε α), after) :=
  ⟨fun _ => h, fun hFault => Bool.noConfusion hFault⟩

theorem of_error (h : FileTree.SameFiles before after) (fault : ε) :
    AllOrNothing path bytes before ((.error fault : Except ε α), after) :=
  ⟨fun hOk => Bool.noConfusion hOk, fun _ => h⟩

theorem of_sameFiles {between : FileTree} {ended : Except ε α × FileTree}
    (h : FileTree.SameFiles before between) (h' : AllOrNothing path bytes between ended) :
    AllOrNothing path bytes before ended :=
  ⟨fun hOk => (h'.wrote hOk).of_sameFiles h, fun hFault => h.trans (h'.kept hFault)⟩

theorem mapError {result : Except ε α} (h : AllOrNothing path bytes before (result, after))
    (f : ε → ε') : AllOrNothing path bytes before (result.mapError f, after) := by
  cases result with
  | ok value => exact of_ok (h.wrote rfl) value
  | error fault => exact of_error (h.kept rfl) (f fault)

end AllOrNothing

/-! ### Writing documents -/

section Write

variable (tree : FileTree) (path text : String)

theorem allOrNothing_writeFile :
    AllOrNothing path text.toUTF8 tree ((writeFile path text).runOn tree) := by
  rw [Attempt.runOn_writeFile]
  cases hWrite : tree.write path text.toUTF8 with
  | ok after => exact .of_ok (FileTree.wrote_of_write hWrite) ()
  | error fault => exact .of_error (.refl tree) fault

theorem allOrNothing_writeInPlace :
    AllOrNothing path text.toUTF8 tree ((writeInPlace path text).runOn tree) := by
  rw [writeInPlace, Attempt.runOn_mapFault]
  exact (allOrNothing_writeFile tree path text).mapError _

/-- Whatever has become of a replacement that failed, the tree has its old files when the text is
then written in place. -/
theorem allOrNothing_writeReplacing (policy : Backoff) :
    AllOrNothing path text.toUTF8 tree ((writeReplacing policy path text).runOn tree) := by
  have hReplace := (FileTree.tempLaws.ends_replaceAtomically policy path text tree).endedAs rfl
  rw [writeReplacing, Attempt.runOn_tryCatch, Attempt.runOn_mapFault]
  generalize (replaceAtomically policy path text).runOn tree = replaced at hReplace
  cases hReplace with
  | ok hWrote => exact .of_ok hWrote ()
  | error hSame => exact (allOrNothing_writeInPlace _ path text).of_sameFiles hSame

end Write

namespace Preset

/-- Creates the directories that a file is to be in. -/
def makeParent (path : String) : Attempt Fault Unit :=
  if Path.parent path = "" then pure () else (createDirectories (Path.parent path)).mapFault .file

theorem sameFiles_makeParent (tree : FileTree) (path : String) :
    FileTree.SameFiles tree ((makeParent path).runOn tree).2 := by
  rw [makeParent]
  split
  · exact .refl tree
  · rw [Attempt.runOn_mapFault, Attempt.runOn_createDirectories]
    exact (FileTree.addsDirectories_createDirs tree (Path.parent path)).sameFiles

/-- Writes the text of a preset in one way or the other. -/
def writeText (path text : String) (atomic : Bool) : Attempt Fault Unit :=
  if atomic then writeReplacing {} path text else writeInPlace path text

/-- Saving is creating directories and then writing. -/
theorem save_eq (preset : Preset) (path : String) (atomic : Bool) :
    preset.save path atomic =
      makeParent path >>= fun _ => writeText path (preset.render true) atomic := by
  rw [save, makeParent]
  by_cases h : Path.parent path = ""
  · rw [if_neg (not_not_intro h), if_pos h]
    rfl
  · rw [if_pos h, if_neg h]
    rfl

theorem allOrNothing_writeText (tree : FileTree) (path text : String) (atomic : Bool) :
    AllOrNothing path text.toUTF8 tree ((writeText path text atomic).runOn tree) := by
  cases atomic with
  | true => exact allOrNothing_writeReplacing tree path text {}
  | false => exact allOrNothing_writeInPlace tree path text

theorem allOrNothing_save (preset : Preset) (path : String) (atomic : Bool) (tree : FileTree) :
    AllOrNothing path (preset.render true).toUTF8 tree ((preset.save path atomic).runOn tree) := by
  have hParent := sameFiles_makeParent tree path
  rw [save_eq, Attempt.runOn_bind]
  generalize (makeParent path).runOn tree = made at hParent
  obtain ⟨result, ready⟩ := made
  cases result with
  | error fault => exact .of_error hParent fault
  | ok _ =>
    exact (allOrNothing_writeText ready path (preset.render true) atomic).of_sameFiles hParent

/-! ### Loading what was saved -/

theorem blank_or_mark_of_isHeaderLine {line : List Char} {c : Char}
    (h : isHeaderLine line = true) (hHead : line.head? = some c) :
    isBlank c = true ∨ c = commentMark := by
  obtain ⟨rest, rfl⟩ := List.head?_eq_some_iff.mp hHead
  cases hBlank : isBlank c with
  | true => exact .inl rfl
  | false =>
    have hTrim : trim (c :: rest) = c :: trimEnd rest := by
      rw [trim, trimStart_cons hBlank, trimEnd_cons hBlank]
    simp only [isHeaderLine, hTrim, isComment] at h
    exact .inr (by simpa using h)

theorem head?_joinLines_cons {line : List Char} {rest : List (List Char)} {c : Char}
    (h : (joinLines (line :: rest)).head? = some c) : c = '\n' ∨ line.head? = some c := by
  by_cases hRest : rest = []
  · rw [hRest, joinLines, List.intercalate_singleton] at h
    exact .inr h
  · rw [joinLines_cons hRest] at h
    cases line with
    | nil => exact .inl (Option.some.inj h).symm
    | cons first line => exact .inr h

/-- A document with a header begins with a blank or with a comment. -/
theorem blank_or_mark_of_render {preset : Preset} (h : preset.NamesPlainly ∨ preset.StoresHeader)
    {c : Char} (hHead : (preset.render true).toList.head? = some c) :
    isBlank c = true ∨ c = commentMark := by
  obtain ⟨header, hHeader, hLine⟩ := exists_header h
  rw [render, documentLines_eq, if_pos rfl, hHeader, String.toList_ofList, List.append_assoc]
    at hHead
  cases header with
  | nil =>
    rcases head?_joinLines_cons hHead with rfl | hNone
    · exact .inl (by decide)
    · cases hNone
  | cons first header =>
    rcases head?_joinLines_cons hHead with rfl | hFirst
    · exact .inl (by decide)
    · exact blank_or_mark_of_isHeaderLine (hLine first List.mem_cons_self).2 hFirst

theorem withoutByteOrderMark_of_head? {text : String} (h : text.toList.head? ≠ some '\uFEFF') :
    withoutByteOrderMark text = text := by
  rw [withoutByteOrderMark]
  split
  · rename_i hMark
    rw [hMark] at h
    exact absurd rfl h
  · rfl

/-- The bytes of the canonical document of a preset that was read are read as that document. -/
theorem ofBytes_render_parse (document : String) :
    ofBytes ((parse document).render true).toUTF8 = parse ((parse document).render true) := by
  rw [ofBytes, decodeReplacing_toUTF8, withoutByteOrderMark_of_head?]
  intro hMark
  have hFirst := blank_or_mark_of_render (namesPlainly_or_storesHeader_parse document) hMark
  exact absurd hFirst (by decide)

theorem runOn_load {σ : Type} [FileSystem σ] {files : σ} {path : String} {bytes : ByteArray}
    (hContains : FileSystem.contains files path = true)
    (hRead : FileSystem.read files path = .ok bytes) :
    (load path).runOn files = (.ok (ofBytes bytes), files) := by
  have hPresent : (containsPath path : Attempt Fault Bool).runOn files =
      (.ok (FileSystem.contains files path), files) := rfl
  have hBytes : (readFile path).runOn files = (FileSystem.read files path, files) := rfl
  rw [load, Attempt.runOn_bind, hPresent, hContains]
  simp only [if_true, Attempt.runOn_bind, Attempt.runOn_mapFault, hBytes, hRead]
  rfl

/-- A preset that was loaded was read from the bytes of its file. -/
theorem exists_of_load {tree after : FileTree} {path : String} {preset : Preset}
    (h : (load path).runOn tree = (.ok preset, after)) :
    ∃ bytes, tree.read path = .ok bytes ∧ preset = ofBytes bytes := by
  obtain ⟨present, -, hRest⟩ := (Attempt.onlyReads_containsPath path).exists_of_runOn_bind h
  cases present with
  | false => cases hRest
  | true =>
    obtain ⟨bytes, hBytes, hDone⟩ :=
      ((Attempt.onlyReads_readFile path).mapFault _).exists_of_runOn_bind hRest
    exact ⟨bytes, congrArg Prod.fst (Attempt.runOn_mapFault_eq_ok_iff.mp hBytes),
      (Except.ok.inj (congrArg Prod.fst hDone)).symm⟩

end Preset

end PresetCompiler

import PresetCompiler.Proofs.Preset.Edits
import PresetCompiler.Proofs.Preset.RoundTrip

/-! Editing sessions. When every block begins with a filter, any of them may come to stand first, so
that the preset can be written and read back after each edit, whatever was edited before. -/

namespace PresetCompiler

open Text

/-- The first line of a block opens a block. -/
def Block.Opens (block : Block) : Prop :=
  ∀ line ∈ block.argLines.head?, opensBlock line = true

instance : DecidablePred Block.Opens := fun block =>
  inferInstanceAs (Decidable (∀ line ∈ block.argLines.head?, opensBlock line = true))

/-- An edit whose blocks are those of argument lines that begin with a filter. -/
def Edit.IsWritten : Edit → Prop
  | upsert block => ∃ group, IsGroup group ∧ (∀ line ∈ group.head?, opensBlock line = true) ∧
      block = Block.ofArgs (String.ofList (joinLines group))
  | remove _ => True
  | move _ _ => True
  | merge => True

namespace Preset

/-- A session starts from a new preset, named on one line, or from one that was read, with a header
that keeps its carriage returns and blocks that all begin with a filter. -/
inductive StartsSession : Preset → Prop
  | new {name : String} (hName : IsContent name.toList) : StartsSession (.new name)
  | parse {document : String} (hReturns : (parse document).KeepsReturns)
      (hOpens : ∀ block ∈ (parse document).blocks, block.Opens) : StartsSession (.parse document)

/-- What every preset of a session satisfies. All blocks begin with a filter, not only the one that
stands first at the moment. -/
structure IsSavable (preset : Preset) : Prop where
  header : preset.NamesPlainly ∨ preset.StoresHeader
  keepsReturns : preset.KeepsReturns
  body : preset.IsTidy
  opens : ∀ block ∈ preset.blocks, block.Opens

namespace IsSavable

theorem opensFirst {preset : Preset} (h : preset.IsSavable) : preset.OpensFirst :=
  fun block hFirst => h.opens block (List.mem_of_mem_head? hFirst)

/-- Only what is asked of the blocks has to be looked at when the blocks change. -/
theorem withBlocks {preset : Preset} (h : preset.IsSavable) {blocks : List Block}
    (hTidy : ∀ block ∈ blocks, block.IsTidy) (hOpens : ∀ block ∈ blocks, block.Opens)
    (hKeys : (blocks.map Block.key).Nodup) : { preset with blocks }.IsSavable where
  header := h.header.imp (fun hPlain => ⟨hPlain.rawHeader, hPlain.name, hPlain.activePreset⟩)
    fun hStored => ⟨hStored.line, hStored.first, hStored.last, hStored.name, hStored.activePreset,
      hStored.notPlain⟩
  keepsReturns := h.keepsReturns
  body := ⟨h.body.base, h.body.baseStays, h.body.baseHead, hTidy, hKeys⟩
  opens := hOpens

theorem edit {preset : Preset} (h : preset.IsSavable) {edit : Edit} (hEdit : edit.IsWritten) :
    (preset.edit edit).IsSavable := by
  have hKeys : preset.HasDistinctKeys := h.body.keys
  have hBlock : ∀ block ∈ (preset.edit edit).blocks, block.IsTidy ∧ block.Opens := by
    intro block hMem
    rcases (mem_blocks_edit hKeys).mp hMem with rfl | ⟨hOld, -⟩
    · obtain ⟨group, hGroup, hHead, rfl⟩ := hEdit
      refine ⟨Block.isTidy_ofLines hGroup, fun line hLine => hHead line ?_⟩
      rwa [← Block.argLines_ofLines hGroup]
    · exact ⟨h.body.block block hOld, h.opens block hOld⟩
  rw [edit_eq]
  exact h.withBlocks (fun block hMem => (hBlock block hMem).1)
    (fun block hMem => (hBlock block hMem).2) (hKeys.edit edit)

theorem editAll {preset : Preset} (h : preset.IsSavable) {edits : List Edit}
    (hEdits : ∀ edit ∈ edits, edit.IsWritten) : (preset.editAll edits).IsSavable := by
  induction edits generalizing preset with
  | nil => exact h
  | cons edit rest ih =>
    have hStep := h.edit (hEdits edit List.mem_cons_self)
    exact ih hStep fun later hLater => hEdits later (List.mem_cons_of_mem edit hLater)

end IsSavable

theorem isTidy_new (name : String) : (new name).IsTidy where
  base := rfl
  baseStays _ hLine := absurd hLine List.not_mem_nil
  baseHead line hLine := absurd hLine (Option.not_mem_none line)
  block _ hBlock := absurd hBlock List.not_mem_nil
  keys := List.nodup_nil

theorem StartsSession.isSavable {start : Preset} (h : start.StartsSession) : start.IsSavable := by
  cases h with
  | @new name hName =>
    have hPlain : (Preset.new name).NamesPlainly :=
      ⟨rfl, hName, fun active hActive => absurd hActive (Option.not_mem_none active)⟩
    exact ⟨.inl hPlain, hPlain.keepsReturns, isTidy_new name, fun block hBlock =>
      absurd hBlock List.not_mem_nil⟩
  | @parse document hReturns hOpens =>
    exact ⟨namesPlainly_or_storesHeader_parse document, hReturns, isTidy_parse document, hOpens⟩

/-- At every point of a session the preset comes back from the document that is written for it. -/
theorem parse_render_editAll {start : Preset} (hStart : start.StartsSession) {edits : List Edit}
    (hEdits : ∀ edit ∈ edits, edit.IsWritten) {done : List Edit} (hDone : done <+: edits) :
    Preset.parse ((start.editAll done).render true) = start.editAll done := by
  have hWritten : ∀ edit ∈ done, edit.IsWritten := fun edit hMem => hEdits edit (hDone.subset hMem)
  have hSavable := hStart.isSavable.editAll hWritten
  exact (parse_render_true_eq_iff hSavable.header hSavable.body).mpr
    ⟨hSavable.keepsReturns, hSavable.opensFirst⟩

/-- A block is put in and another one removed, so that the block that was put in comes to stand
first. -/
theorem parse_render_editAll_voice :
    let document := "# Preset: Home\n# by hand\n--wf-tcp=443\n--filter-tcp=443\n--hostlist=games.txt"
    let group := ["--filter-udp=50000-50010".toList, "--ipset=ipset-voice.txt".toList]
    let edits : List Edit := [.upsert (.ofArgs (String.ofList (joinLines group))), .move 0 1,
      .remove ⟨"games", .tcp⟩, .merge]
    (parse document).StartsSession ∧ (∀ edit ∈ edits, edit.IsWritten) ∧ edits.take 3 <+: edits ∧
      ((parse document).editAll (edits.take 3)).render true =
        "# Preset: Home\n# by hand\n\n--wf-tcp=443\n\n--filter-udp=50000-50010\n" ++
          "--ipset=ipset-voice.txt" ∧
      parse (((parse document).editAll (edits.take 3)).render true) =
        (parse document).editAll (edits.take 3) := by
  intro document group edits
  have hStart : (parse document).StartsSession := .parse (by decide +kernel) (by decide +kernel)
  have hEdits : ∀ edit ∈ edits, edit.IsWritten := by
    have hGroup : IsGroup group := by decide +kernel
    have hHead : ∀ line ∈ group.head?, opensBlock line = true := by decide +kernel
    simpa [edits, Edit.IsWritten] using ⟨group, hGroup, hHead, rfl⟩
  have hDone : edits.take 3 <+: edits := List.take_prefix 3 edits
  exact ⟨hStart, hEdits, hDone, by decide +kernel, parse_render_editAll hStart hEdits hDone⟩

end Preset

end PresetCompiler

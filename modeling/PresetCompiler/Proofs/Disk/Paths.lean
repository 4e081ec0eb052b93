import PresetCompiler.Disk.Basic
import PresetCompiler.Proofs.Script

/-! Where paths lead on a disk. Following names is given as a relation, by the ways in which one
name is passed (`Leads`, `walk_eq_ok_iff`). Directories and links are all that it depends on, so
that paths lead where they led as long as these stay (`SameWays`). -/

namespace PresetCompiler.Disk

variable {disk before after : Disk} {through : Bool} {links : Nat} {here location : Location}
  {name path : String} {names rest : List String}

/-- Names lead from one location to another, through as many links as are allowed. -/
inductive Leads (disk : Disk) (through : Bool) : (links : Nat) → Location → List String →
    Location → Prop
  | here {links : Nat} {here : Location} : Leads disk through links here [] here
  /-- Past a name that is no link. -/
  | pass {links : Nat} {here next location : Location} {name : String} {rest : List String}
      (hEnter : disk.enter here name = .ok next)
      (hNode : ∀ path, disk.node? next ≠ some (.link path))
      (hRest : Leads disk through links next rest location) :
      Leads disk through links here (name :: rest) location
  /-- Up to a link at the end. -/
  | stop {links : Nat} {here next : Location} {name path : String}
      (hEnter : disk.enter here name = .ok next) (hLink : disk.node? next = some (.link path))
      (hThrough : through = false) : Leads disk through links here [name] next
  /-- On to what a link stands for. -/
  | follow {links : Nat} {here next location : Location} {name path : String} {rest : List String}
      (hEnter : disk.enter here name = .ok next) (hLink : disk.node? next = some (.link path))
      (hThrough : rest ≠ [] ∨ through = true)
      (hRest : Leads disk through links (here.origin path) (Path.steps path ++ rest) location) :
      Leads disk through (links + 1) here (name :: rest) location

/-! ### The walk -/

section Walk

variable {follow : Location → List String → Except FileFault Location} {next : Location}
  (hEnter : disk.enter here name = .ok next)
include hEnter

theorem walkBy_pass (hNode : ∀ path, disk.node? next ≠ some (.link path)) :
    disk.walkBy through follow here (name :: rest) = disk.walkBy through follow next rest := by
  rw [walkBy, hEnter]
  dsimp only
  split
  · rename_i path hLink
    exact absurd hLink (hNode path)
  · rfl

theorem walkBy_stop (hLink : disk.node? next = some (.link path)) :
    disk.walkBy false follow here [name] = .ok next := by
  rw [walkBy, hEnter]
  simp [hLink]

theorem walkBy_follow (hLink : disk.node? next = some (.link path))
    (hThrough : rest ≠ [] ∨ through = true) :
    disk.walkBy through follow here (name :: rest) =
      follow (here.origin path) (Path.steps path ++ rest) := by
  have hOn : (decide (rest = []) && !through) = false := by
    rcases hThrough with h | rfl
    · simp [h]
    · simp
  rw [walkBy, hEnter]
  simp [hLink, hOn]

end Walk

theorem leads_of_walkBy {follow : Location → List String → Except FileFault Location}
    (hFollow : ∀ {here location names}, follow here names = .ok location →
      ∃ fewer, links = fewer + 1 ∧ disk.Leads through fewer here names location)
    (h : disk.walkBy through follow here names = .ok location) :
    disk.Leads through links here names location := by
  induction names generalizing here with
  | nil =>
    cases h
    exact .here
  | cons name rest ih =>
    cases hEnter : disk.enter here name with
    | error fault =>
      rw [walkBy, hEnter] at h
      cases h
    | ok next =>
      by_cases hNode : ∃ path, disk.node? next = some (.link path)
      · obtain ⟨path, hLink⟩ := hNode
        by_cases hStop : rest = [] ∧ through = false
        · obtain ⟨rfl, rfl⟩ := hStop
          rw [walkBy_stop hEnter hLink] at h
          cases h
          exact .stop hEnter hLink rfl
        · have hThrough : rest ≠ [] ∨ through = true := by
            cases through <;> simp_all
          rw [walkBy_follow hEnter hLink hThrough] at h
          obtain ⟨fewer, rfl, hRest⟩ := hFollow h
          exact .follow hEnter hLink hThrough hRest
      · have hNone := not_exists.mp hNode
        rw [walkBy_pass hEnter hNone] at h
        exact .pass hEnter hNone (ih h)

theorem leads_of_walk (h : disk.walk through links here names = .ok location) :
    disk.Leads through links here names location := by
  induction links generalizing here location names with
  | zero => exact leads_of_walkBy (fun hFollow => by cases hFollow) h
  | succ links ih => exact leads_of_walkBy (fun hFollow => ⟨links, rfl, ih hFollow⟩) h

theorem Leads.walk_eq (h : disk.Leads through links here names location) :
    disk.walk through links here names = .ok location := by
  induction h with
  | @here links here => cases links <;> rfl
  | @pass links _ _ _ _ _ hEnter hNode _ ih =>
    cases links with
    | zero => exact (walkBy_pass hEnter hNode).trans ih
    | succ links => exact (walkBy_pass hEnter hNode).trans ih
  | @stop links _ _ _ _ hEnter hLink hThrough =>
    subst hThrough
    cases links <;> exact walkBy_stop hEnter hLink
  | follow hEnter hLink hThrough _ ih => exact (walkBy_follow hEnter hLink hThrough).trans ih

theorem walk_eq_ok_iff :
    disk.walk through links here names = .ok location ↔
      disk.Leads through links here names location :=
  ⟨leads_of_walk, Leads.walk_eq⟩

/-! ### Ways that stay -/

theorem enter_eq_ok_iff {next : Location} :
    disk.enter here name = .ok next ↔
      disk.node? here = some .directory ∧ here.enter name = .ok next := by
  rw [enter]
  cases hNode : disk.node? here with
  | none => simp
  | some node => cases node <;> simp

/-- The same directories and links, in the same places. -/
structure SameWays (before after : Disk) : Prop where
  place : after.place = before.place
  directory (location : Location) :
    after.node? location = some .directory ↔ before.node? location = some .directory
  link (location : Location) (path : String) :
    after.node? location = some (.link path) ↔ before.node? location = some (.link path)

namespace SameWays

theorem symm (h : SameWays before after) : SameWays after before :=
  ⟨h.place.symm, fun location => (h.directory location).symm,
    fun location path => (h.link location path).symm⟩

theorem enter (h : SameWays before after) {next : Location}
    (hEnter : before.enter here name = .ok next) : after.enter here name = .ok next := by
  rw [enter_eq_ok_iff] at hEnter ⊢
  exact ⟨(h.directory here).mpr hEnter.1, hEnter.2⟩

theorem leads (h : SameWays before after)
    (hLeads : before.Leads through links here names location) :
    after.Leads through links here names location := by
  induction hLeads with
  | here => exact .here
  | pass hEnter hNode _ ih =>
    exact .pass (h.enter hEnter) (fun path hLink => hNode path ((h.link _ path).mp hLink)) ih
  | stop hEnter hLink hThrough => exact .stop (h.enter hEnter) ((h.link _ _).mpr hLink) hThrough
  | follow hEnter hLink hThrough _ ih =>
    exact .follow (h.enter hEnter) ((h.link _ _).mpr hLink) hThrough ih

end SameWays

theorem locateNames_eq_ok_iff :
    disk.locateNames through path names = .ok location ↔ Path.check path = .ok () ∧
      disk.Leads through maxLinks (disk.place.origin path) names location := by
  rw [← walk_eq_ok_iff, locateNames]
  constructor
  · intro h
    obtain ⟨_, hCheck, hWalk⟩ := exists_of_bind h
    exact ⟨hCheck, hWalk⟩
  · rintro ⟨hCheck, hWalk⟩
    rw [hCheck]
    exact hWalk

theorem SameWays.locateNames_iff (h : SameWays before after) :
    after.locateNames through path names = .ok location ↔
      before.locateNames through path names = .ok location := by
  rw [locateNames_eq_ok_iff, locateNames_eq_ok_iff, h.place]
  exact and_congr_right fun _ => ⟨h.symm.leads, h.leads⟩

/-! ### Up to a link and through it -/

/-- A way up to a location where no link stands is one through all links. -/
theorem Leads.to_true (h : disk.Leads through links here names location)
    (hNode : ∀ path, disk.node? location ≠ some (.link path)) :
    disk.Leads true links here names location := by
  induction h with
  | here => exact .here
  | pass hEnter hNext _ ih => exact .pass hEnter hNext (ih hNode)
  | stop hEnter hLink _ => exact absurd hLink (hNode _)
  | follow hEnter hLink _ _ ih => exact .follow hEnter hLink (.inr rfl) (ih hNode)

/-- A way through all links can be gone up to a last link, and it is the same way when there is
none. -/
theorem Leads.exists_upTo (h : disk.Leads true links here names location) :
    ∃ last, disk.Leads false links here names last ∧
      ((∀ path, disk.node? last ≠ some (.link path)) → last = location) := by
  induction h with
  | here => exact ⟨_, .here, fun _ => rfl⟩
  | pass hEnter hNode _ ih =>
    obtain ⟨last, hLast, hSame⟩ := ih
    exact ⟨last, .pass hEnter hNode hLast, hSame⟩
  | stop _ _ hThrough => cases hThrough
  | @follow _ _ next _ _ path rest hEnter hLink _ _ ih =>
    by_cases hRest : rest = []
    · subst hRest
      exact ⟨next, .stop hEnter hLink rfl, fun hNone => absurd hLink (hNone path)⟩
    · obtain ⟨last, hLast, hSame⟩ := ih
      exact ⟨last, .follow hEnter hLink (.inl hRest) hLast, hSame⟩

theorem Leads.exists_enter (h : disk.Leads through links here (name :: rest) location) :
    ∃ next, disk.enter here name = .ok next := by
  cases h with
  | pass hEnter => exact ⟨_, hEnter⟩
  | stop hEnter => exact ⟨_, hEnter⟩
  | follow hEnter => exact ⟨_, hEnter⟩

section Put

variable {target : Location} {number : Nat} (hTarget : after.node? target = some (.file number))
  (hOther : ∀ other, other ≠ target → after.node? other = before.node? other)
include hTarget hOther

theorem enter_of_put {next : Location} (h : after.enter here name = .ok next) :
    before.enter here name = .ok next := by
  rw [enter_eq_ok_iff] at h ⊢
  have hNe : here ≠ target := by
    rintro rfl
    rw [hTarget] at h
    exact absurd h.1 (by simp)
  rwa [← hOther here hNe]

/-- Where a file has been put in place of what a path names, the path leads to that file, unless it
leads nowhere any more. -/
theorem Leads.eq_of_put (hAfter : after.Leads true links here names location)
    (hBefore : before.Leads false links here names target) : location = target := by
  induction hAfter with
  | here =>
    cases hBefore
    rfl
  | @pass _ _ next _ _ rest hEnter hNext hRest ih =>
    have hSame := enter_of_put hTarget hOther hEnter
    cases hBefore with
    | pass hEnter' _ hRest' =>
      cases hSame.symm.trans hEnter'
      exact ih hRest'
    | stop hEnter' _ _ =>
      cases hSame.symm.trans hEnter'
      cases hRest
      rfl
    | follow hEnter' hLink' hThrough' _ =>
      -- A link that is none any more is the target, and no name can follow it.
      cases hSame.symm.trans hEnter'
      have hHere : next = target := Decidable.byContradiction fun hNe =>
        hNext _ ((hOther next hNe).trans hLink')
      obtain ⟨last, others, rfl⟩ := List.exists_cons_of_ne_nil (hThrough'.resolve_right (by simp))
      obtain ⟨_, hBeyond⟩ := hRest.exists_enter
      rw [enter_eq_ok_iff, hHere, hTarget] at hBeyond
      exact absurd hBeyond.1 (by simp)
  | stop _ _ hThrough => cases hThrough
  | @follow _ _ next _ _ path rest hEnter hLink _ _ ih =>
    have hSame := enter_of_put hTarget hOther hEnter
    have hNe : next ≠ target := by
      rintro rfl
      rw [hTarget] at hLink
      cases hLink
    rw [hOther next hNe] at hLink
    cases hBefore with
    | pass hEnter' hNext' _ =>
      cases hSame.symm.trans hEnter'
      exact absurd hLink (hNext' path)
    | stop hEnter' _ _ =>
      cases hSame.symm.trans hEnter'
      exact absurd rfl hNe
    | follow hEnter' hLink' _ hRest' =>
      cases hSame.symm.trans hEnter'
      cases hLink.symm.trans hLink'
      exact ih hRest'

end Put

end PresetCompiler.Disk

import Mathlib.Data.List.SplitBy
import PresetCompiler.Proofs.Filter.WindowSizes

/-! Window sizes part by part. A token list is cut before every token that begins the part of one
filter. The walk that sets window sizes keeps these parts and their order, and it adds the window
size at the end of those that cover port 443 and set none (`wssize_eq_flatMap`). -/

namespace PresetCompiler

/-! ### Parts -/

/-- The parts of a token list, which is cut before every token that begins one. -/
def filterParts (tokens : List String) : List (List String) :=
  tokens.splitBy fun _ next => !isBoundary next

/-- How the parts of a token list look: none is empty, the first token of every part but the first
begins a part, and no other token does. -/
structure ArePartsOf (tokens : List String) (parts : List (List String)) : Prop where
  flatten : parts.flatten = tokens
  ne_nil : ∀ part ∈ parts, part ≠ []
  inner : ∀ part ∈ parts, ∀ token ∈ part.tail, isBoundary token = false
  opened : ∀ part ∈ parts.tail, ∃ token ∈ part.head?, isBoundary token = true

theorem isChain_iff_forall_tail {α : Type} {p : α → Prop} {l : List α} :
    (l.IsChain fun _ next => p next) ↔ ∀ next ∈ l.tail, p next := by
  induction l with
  | nil => simp
  | cons first rest ih =>
    cases rest with
    | nil => simp
    | cons second rest =>
      rw [List.isChain_cons_cons, ih, List.tail_cons, List.tail_cons, List.forall_mem_cons]

/-- There is one way to cut a token list into such parts. -/
theorem filterParts_eq_iff {tokens : List String} {parts : List (List String)} :
    filterParts tokens = parts ↔ ArePartsOf tokens parts := by
  rw [filterParts, List.splitBy_eq_iff]
  have hNil : [] ∉ parts ↔ ∀ part ∈ parts, part ≠ [] :=
    ⟨fun h part hMem hPart => h (hPart ▸ hMem), fun h hMem => h [] hMem rfl⟩
  have hInner : (∀ part ∈ parts, part.IsChain fun _ next => (!isBoundary next) = true) ↔
      ∀ part ∈ parts, ∀ token ∈ part.tail, isBoundary token = false := by
    simp only [isChain_iff_forall_tail, Bool.not_eq_true']
  have hOpened (hParts : ∀ part ∈ parts, part ≠ []) :
      (parts.IsChain fun part next => ∃ (_ : part ≠ []) (hNext : next ≠ []),
        (!isBoundary (next.head hNext)) = false) ↔
      ∀ part ∈ parts.tail, ∃ token ∈ part.head?, isBoundary token = true := by
    rw [← isChain_iff_forall_tail]
    refine List.IsChain.iff_of_mem_imp fun part next hPart hNext => ?_
    have hHead := List.head?_eq_some_head (hParts next hNext)
    simp [hHead, hParts part hPart, hParts next hNext]
  constructor
  · rintro ⟨hFlatten, hNotNil, hChains, hChain⟩
    have hParts := hNil.mp hNotNil
    exact ⟨hFlatten.symm, hParts, hInner.mp hChains, (hOpened hParts).mp hChain⟩
  · intro h
    exact ⟨h.flatten.symm, hNil.mpr h.ne_nil, hInner.mpr h.inner, (hOpened h.ne_nil).mpr h.opened⟩

theorem arePartsOf_filterParts (tokens : List String) : ArePartsOf tokens (filterParts tokens) :=
  filterParts_eq_iff.mp rfl

/-! ### Parts that cover port 443 -/

/-- Whether a part filters TCP traffic on a port set that covers port 443. -/
def CoversHttps (wildcard : Bool) (part : List String) : Prop :=
  ∃ spec rest, part = ("--filter-tcp=" ++ spec) :: rest ∧
    (PortSet.parse spec).covers wildcard 443 = true

/-- Whether a part covers port 443 and sets no window size. -/
def OwesWindowSize (wildcard : Bool) (part : List String) : Prop :=
  CoversHttps wildcard part ∧ ∀ token ∈ part, setsWindowSize token = false

theorem coversHttps_iff {wildcard : Bool} {token : String} {rest : List String} :
    CoversHttps wildcard (token :: rest) ↔ coversHttps wildcard token = true := by
  rw [coversHttps]
  constructor
  · rintro ⟨spec, _, hPart, hCovers⟩
    obtain ⟨rfl, -⟩ := List.cons.inj hPart
    have hSpec : Text.after? "--filter-tcp=".toList ("--filter-tcp=" ++ spec).toList =
        some spec.toList := after?_toList_eq_some_iff.mpr (by rw [String.ofList_toList])
    rw [hSpec]
    change (PortSet.parse (String.ofList spec.toList)).covers wildcard httpsPort = true
    rw [String.ofList_toList]
    exact hCovers
  · intro h
    split at h
    · rename_i spec hSpec
      exact ⟨String.ofList spec, rest, congrArg (· :: rest) (after?_toList_eq_some_iff.mp hSpec), h⟩
    · contradiction

instance (wildcard : Bool) (part : List String) : Decidable (CoversHttps wildcard part) :=
  match part with
  | [] => .isFalse fun ⟨_, _, hPart, _⟩ => nomatch hPart
  | token :: _ => decidable_of_iff (coversHttps wildcard token = true) coversHttps_iff.symm

instance (wildcard : Bool) (part : List String) : Decidable (OwesWindowSize wildcard part) :=
  inferInstanceAs (Decidable (_ ∧ _))

/-- A part with the window size at its end when it owes one. -/
def withWindowSize (wildcard : Bool) (part : List String) : List String :=
  if OwesWindowSize wildcard part then part ++ windowSizeTokens else part

/-! ### The walk -/

section Walk

variable {wildcard : Bool} {first : String} {inner : List String}

theorem WindowState.foldl_extend_outside (tokens : List String) :
    tokens.foldl extend outside = outside := by
  induction tokens with
  | nil => rfl
  | cons token rest ih => exact ih

/-- What is owed at the end of a part is the window size, unless the part does without. -/
theorem owed_part :
    (inner.foldl WindowState.extend (.enter wildcard first)).owed =
      if OwesWindowSize wildcard (first :: inner) then windowSizeTokens else [] := by
  rw [WindowState.enter]
  cases hCovers : coversHttps wildcard first with
  | false =>
    have hNot : ¬OwesWindowSize wildcard (first :: inner) := fun hOwes => by
      rw [coversHttps_iff.mp hOwes.1] at hCovers
      contradiction
    rw [if_neg hNot, if_neg (by decide), WindowState.foldl_extend_outside]
    rfl
  | true =>
    have hOwes : OwesWindowSize wildcard (first :: inner) ↔
        (setsWindowSize first || inner.any setsWindowSize) = false := by
      rw [OwesWindowSize, and_iff_right (coversHttps_iff.mpr hCovers), ← List.any_cons,
        List.any_eq_false]
      simp only [Bool.not_eq_true]
    rw [if_pos rfl, WindowState.foldl_extend_covered]
    cases hSet : setsWindowSize first || inner.any setsWindowSize with
    | true => rw [if_neg (by simp [hOwes, hSet])]; rfl
    | false => rw [if_pos (hOwes.mpr hSet)]; rfl

theorem setWindowSizes_part (h : ∀ token ∈ inner, isBoundary token = false) :
    setWindowSizes wildcard .outside (first :: inner) =
      withWindowSize wildcard (first :: inner) := by
  have hWalk : setWindowSizes wildcard .outside (first :: inner) =
      first :: setWindowSizes wildcard (.enter wildcard first) inner := by
    cases hFirst : isBoundary first with
    | true => exact setWindowSizes_boundary hFirst .outside inner
    | false =>
      have hCovers : coversHttps wildcard first = false := by
        refine Bool.eq_false_iff.mpr fun hCovers => ?_
        rw [isBoundary_of_coversHttps hCovers] at hFirst
        contradiction
      rw [setWindowSizes_inner hFirst, WindowState.enter, hCovers]
      rfl
  rw [hWalk, setWindowSizes_of_inner h, owed_part, withWindowSize]
  split
  · rfl
  · rw [List.append_nil]

end Walk

/-! ### All parts -/

theorem ArePartsOf.tail {tokens part : List String} {rest : List (List String)}
    (h : ArePartsOf tokens (part :: rest)) : ArePartsOf rest.flatten rest where
  flatten := rfl
  ne_nil := (List.forall_mem_cons.mp h.ne_nil).2
  inner := (List.forall_mem_cons.mp h.inner).2
  opened next hNext := h.opened next (List.mem_of_mem_tail hNext)

theorem setWindowSizes_eq_flatMap {wildcard : Bool} {tokens : List String}
    {parts : List (List String)} (h : ArePartsOf tokens parts) :
    setWindowSizes wildcard .outside tokens = parts.flatMap (withWindowSize wildcard) := by
  induction parts generalizing tokens with
  | nil => rw [← h.flatten]; rfl
  | cons part rest ih =>
    have hPart : setWindowSizes wildcard .outside part = withWindowSize wildcard part := by
      cases part with
      | nil => exact absurd rfl (h.ne_nil [] List.mem_cons_self)
      | cons first inner => exact setWindowSizes_part (h.inner _ List.mem_cons_self)
    have hRest := ih h.tail
    rw [← h.flatten, List.flatten_cons, List.flatMap_cons]
    cases rest with
    | nil => rw [List.flatten_nil, List.append_nil, hPart, List.flatMap_nil, List.append_nil]
    | cons next others =>
      obtain ⟨token, hHead, hToken⟩ := h.opened next List.mem_cons_self
      obtain ⟨inner, rfl⟩ := List.head?_eq_some_iff.mp hHead
      rw [List.flatten_cons, List.cons_append] at hRest ⊢
      rw [setWindowSizes_append hToken, hPart, hRest]

/-- Only the window size is added to a part, at its end. -/
theorem withWindowSize_eq (wildcard : Bool) (part : List String) :
    ∃ added, withWindowSize wildcard part = part ++ added ∧ added ⊆ windowSizeTokens := by
  rw [withWindowSize]
  split
  · exact ⟨windowSizeTokens, rfl, fun _ h => h⟩
  · exact ⟨[], (List.append_nil part).symm, List.nil_subset _⟩

theorem isBoundary_of_mem_windowSizeTokens {token : String} (h : token ∈ windowSizeTokens) :
    isBoundary token = false := by
  revert token
  decide

theorem ArePartsOf.map_withWindowSize {tokens : List String} {parts : List (List String)}
    (wildcard : Bool) (h : ArePartsOf tokens parts) :
    ArePartsOf (parts.flatMap (withWindowSize wildcard)) (parts.map (withWindowSize wildcard)) where
  flatten := rfl
  ne_nil part hPart := by
    obtain ⟨old, hOld, rfl⟩ := List.mem_map.mp hPart
    obtain ⟨added, hAdded, -⟩ := withWindowSize_eq wildcard old
    rw [hAdded]
    exact List.append_ne_nil_of_left_ne_nil (h.ne_nil old hOld) added
  inner part hPart token hToken := by
    obtain ⟨old, hOld, rfl⟩ := List.mem_map.mp hPart
    obtain ⟨added, hAdded, hSubset⟩ := withWindowSize_eq wildcard old
    rw [hAdded, List.tail_append_of_ne_nil (h.ne_nil old hOld), List.mem_append] at hToken
    rcases hToken with hToken | hToken
    · exact h.inner old hOld token hToken
    · exact isBoundary_of_mem_windowSizeTokens (hSubset hToken)
  opened part hPart := by
    rw [← List.map_tail] at hPart
    obtain ⟨old, hOld, rfl⟩ := List.mem_map.mp hPart
    obtain ⟨token, hHead, hToken⟩ := h.opened old hOld
    obtain ⟨added, hAdded, -⟩ := withWindowSize_eq wildcard old
    refine ⟨token, ?_, hToken⟩
    rw [hAdded, List.head?_append_of_ne_nil old (h.ne_nil old (List.mem_of_mem_tail hOld))]
    exact hHead

/-- Nothing is owed any more. -/
theorem not_owesWindowSize_withWindowSize (wildcard : Bool) (part : List String) :
    ¬OwesWindowSize wildcard (withWindowSize wildcard part) := by
  rw [withWindowSize]
  split
  · rintro ⟨-, hNone⟩
    have hSet := hNone "--wssize" (List.mem_append_right part List.mem_cons_self)
    exact absurd hSet (by decide)
  · assumption

theorem flatten_sublist_flatMap_withWindowSize (wildcard : Bool) (parts : List (List String)) :
    parts.flatten.Sublist (parts.flatMap (withWindowSize wildcard)) := by
  induction parts with
  | nil => exact List.Sublist.refl []
  | cons part rest ih =>
    obtain ⟨added, hAdded, -⟩ := withWindowSize_eq wildcard part
    rw [List.flatten_cons, List.flatMap_cons, hAdded]
    exact (List.sublist_append_left part added).append ih

theorem filter_withWindowSize (wildcard : Bool) (part : List String) :
    ((withWindowSize wildcard part).filter fun token => token ∉ windowSizeTokens) =
      part.filter fun token => token ∉ windowSizeTokens := by
  obtain ⟨added, hAdded, hSubset⟩ := withWindowSize_eq wildcard part
  have hNone : (added.filter fun token => token ∉ windowSizeTokens) = [] :=
    List.filter_eq_nil_iff.mpr fun token hToken => by simpa using hSubset hToken
  rw [hAdded, List.filter_append, hNone, List.append_nil]

/-- Setting window sizes is adding the window size at the end of each part that filters TCP traffic
on port 443 and sets none, and nothing else. The parts stay parts and keep their order, all of
their tokens stay as they are, and none of them owes a window size afterwards. -/
theorem wssize_eq_flatMap (wildcard : Bool) (tokens : List String) :
    let result := (TokenPass.wssize wildcard).apply tokens
    result = (filterParts tokens).flatMap (withWindowSize wildcard) ∧
      ArePartsOf tokens (filterParts tokens) ∧
      filterParts result = (filterParts tokens).map (withWindowSize wildcard) ∧
      tokens.Sublist result ∧
      (result.filter fun token => token ∉ windowSizeTokens) =
        (tokens.filter fun token => token ∉ windowSizeTokens) ∧
      ∀ part ∈ filterParts result, CoversHttps wildcard part →
        ∃ token ∈ part, setsWindowSize token = true := by
  intro result
  have hParts := arePartsOf_filterParts tokens
  have hResult : result = (filterParts tokens).flatMap (withWindowSize wildcard) :=
    (insertWindowSizes_eq wildcard tokens).trans (setWindowSizes_eq_flatMap hParts)
  have hAfter : filterParts result = (filterParts tokens).map (withWindowSize wildcard) := by
    rw [hResult]
    exact filterParts_eq_iff.mpr (hParts.map_withWindowSize wildcard)
  refine ⟨hResult, hParts, hAfter, ?_, ?_, ?_⟩
  · have hSublist := flatten_sublist_flatMap_withWindowSize wildcard (filterParts tokens)
    rwa [hParts.flatten, ← hResult] at hSublist
  · rw [hResult, List.filter_flatMap, List.flatMap_congr fun part _ =>
      filter_withWindowSize wildcard part, ← List.filter_flatMap, List.flatMap_id',
      hParts.flatten]
  · intro part hPart hCovers
    rw [hAfter] at hPart
    obtain ⟨old, -, rfl⟩ := List.mem_map.mp hPart
    by_contra hNone
    refine not_owesWindowSize_withWindowSize wildcard old ⟨hCovers, fun token hToken => ?_⟩
    exact Bool.eq_false_iff.mpr fun hSet => hNone ⟨token, hToken, hSet⟩

/-- The second of five parts gets a window size. The third one is no TCP filter, the fourth is a
separator, and the last one sets a window size itself. -/
theorem wssize_eq_flatMap_mixed :
    let tokens := ["--wf-tcp=443", "--filter-tcp=80,400-500", "--dpi-desync=fake",
      "--filter-udp=443", "--new", "--filter-tcp=443", "--wssize=1:4"]
    let result := (TokenPass.wssize false).apply tokens
    let owing := ["--filter-tcp=80,400-500", "--dpi-desync=fake"]
    filterParts tokens = [["--wf-tcp=443"], owing, ["--filter-udp=443"], ["--new"],
        ["--filter-tcp=443", "--wssize=1:4"]] ∧
      result = ["--wf-tcp=443"] ++ owing ++ ["--wssize", "1:6", "--wssize-forced-cutoff=0"] ++
        ["--filter-udp=443", "--new", "--filter-tcp=443", "--wssize=1:4"] ∧
      withWindowSize false owing ∈ filterParts result ∧
      CoversHttps false (withWindowSize false owing) ∧
      ∃ token ∈ withWindowSize false owing, setsWindowSize token = true := by
  intro tokens result owing
  obtain ⟨hResult, -, hAfter, -, -, hSet⟩ := wssize_eq_flatMap false tokens
  have hTokens : filterParts tokens = [["--wf-tcp=443"], owing, ["--filter-udp=443"], ["--new"],
      ["--filter-tcp=443", "--wssize=1:4"]] := by decide +kernel
  have hMem : withWindowSize false owing ∈ filterParts result := by
    rw [hAfter, hTokens]
    exact List.mem_map_of_mem (List.mem_cons_of_mem _ List.mem_cons_self)
  have hCovers : CoversHttps false (withWindowSize false owing) := by decide +kernel
  refine ⟨hTokens, hResult.trans ?_, hMem, hCovers, hSet _ hMem hCovers⟩
  rw [hTokens]
  decide +kernel

end PresetCompiler

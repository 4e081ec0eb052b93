import PresetCompiler.Filter.Pipeline
import PresetCompiler.Proofs.Text.Replace

/-! What the passes go by in a single token. They drop and rewrite only tokens that choose targets;
such a token neither begins a block nor sets a window size, and naming the list of all zones keeps
it the kind of token that it is. -/

namespace PresetCompiler

open Text

/-! ### Leads -/

theorem hasLead_iff {leads : List String} {token : String} :
    hasLead leads token = true ↔ ∃ lead ∈ leads, ∃ rest, token.toList = lead.toList ++ rest := by
  simp [hasLead, startsWithAny, startsWith_iff]

theorem hasLead_mono {leads more : List String} (h : leads ⊆ more) {token : String}
    (hLead : hasLead leads token = true) : hasLead more token = true := by
  obtain ⟨lead, hMem, hRest⟩ := hasLead_iff.mp hLead
  exact hasLead_iff.mpr ⟨lead, h hMem, hRest⟩

/-- A token does not start with two leads that differ before either one ends. -/
theorem hasLead_disjoint {leads others : List String}
    (h : ∀ lead ∈ leads, ∀ other ∈ others, startsWith lead.toList other.toList = false ∧
      startsWith other.toList lead.toList = false)
    {token : String} (hLead : hasLead leads token = true) : hasLead others token = false := by
  rw [← Bool.not_eq_true]
  intro hOther
  obtain ⟨lead, hMem, rest, hRest⟩ := hasLead_iff.mp hLead
  obtain ⟨other, hMem', rest', hRest'⟩ := hasLead_iff.mp hOther
  obtain ⟨hNot, hNot'⟩ := h lead hMem other hMem'
  have hShared : lead.toList ++ rest = other.toList ++ rest' := by rw [← hRest, hRest']
  rcases List.append_eq_append_iff.mp hShared with ⟨between, hLonger, -⟩ | ⟨between, hLonger, -⟩
  · have hStart := startsWith_iff.mpr ⟨between, hLonger⟩
    rw [hNot] at hStart
    contradiction
  · have hStart := startsWith_iff.mpr ⟨between, hLonger⟩
    rw [hNot'] at hStart
    contradiction

/-! ### Tokens that choose targets -/

/-- Whether a token chooses targets by a host list or an IP set. -/
def isTarget (token : String) : Bool :=
  hasLead (hostlistLeads ++ ipsetLeads) token

theorem ne_separator_of_isTarget {token : String} (h : isTarget token = true) :
    token ≠ separator := by
  rintro rfl
  exact absurd h (by decide)

theorem isBoundary_of_isTarget {token : String} (h : isTarget token = true) :
    isBoundary token = false := by
  have hFilter : hasLead ["--filter-"] token = false := hasLead_disjoint (by decide) h
  have hSeparator : token ≠ separator := ne_separator_of_isTarget h
  simp [isBoundary, hFilter, hSeparator]

theorem setsWindowSize_of_isTarget {token : String} (h : isTarget token = true) :
    setsWindowSize token = false := by
  have hLead : hasLead ["--wssize=", "--wssize-forced-cutoff"] token = false :=
    hasLead_disjoint (by decide) h
  have hFlag : token ≠ "--wssize" := by
    rintro rfl
    exact absurd h (by decide)
  simp [setsWindowSize, hLead, hFlag]

theorem isTarget_of_isBoundary {token : String} (h : isBoundary token = true) :
    isTarget token = false := by
  refine Bool.eq_false_iff.mpr fun hTarget => ?_
  rw [isBoundary_of_isTarget hTarget] at h
  contradiction

/-! ### The list of all zones -/

/-- Only the text after the lead of a host list token is searched for the list of other zones. -/
theorem replaceAll_otherList (new rest : List Char) :
    replaceAll otherList.toList new ("--hostlist=".toList ++ rest) =
      "--hostlist=".toList ++ replaceAll otherList.toList new rest := by
  simp [replaceAll, replaceFrom, startsWith, after?, otherList]

/-- A token that the list of all zones is put into is a host list token before and after. -/
theorem widenToken_cases (token : String) :
    widenToken token = token ∨
      hasLead ["--hostlist="] token = true ∧ hasLead ["--hostlist="] (widenToken token) = true := by
  by_cases h : (hasLead ["--hostlist="] token && occursIn otherList.toList token.toList) = true
  · right
    have hLead : hasLead ["--hostlist="] token = true := (Bool.and_eq_true_iff.mp h).1
    obtain ⟨lead, hMem, rest, hRest⟩ := hasLead_iff.mp hLead
    obtain rfl := List.mem_singleton.mp hMem
    refine ⟨hLead, hasLead_iff.mpr
      ⟨_, hMem, replaceAll otherList.toList allzoneList.toList rest, ?_⟩⟩
    rw [widenToken, if_pos h, hRest, replaceAll_otherList, String.toList_ofList]
  · left
    rw [widenToken, if_neg h]

/-- A test that answers alike for all host list tokens is not affected by the list they name. -/
theorem widenToken_congr {test : String → Bool} {answer : Bool}
    (h : ∀ token, hasLead ["--hostlist="] token = true → test token = answer) (token : String) :
    test (widenToken token) = test token := by
  rcases widenToken_cases token with hSame | ⟨hBefore, hAfter⟩
  · rw [hSame]
  · rw [h _ hBefore, h _ hAfter]

theorem hasLead_hostlistLeads_widenToken (token : String) :
    hasLead hostlistLeads (widenToken token) = hasLead hostlistLeads token :=
  widenToken_congr (fun _ h => hasLead_mono (by decide) h) token

theorem hasLead_ipsetLeads_widenToken (token : String) :
    hasLead ipsetLeads (widenToken token) = hasLead ipsetLeads token :=
  widenToken_congr (fun _ h => hasLead_disjoint (by decide) h) token

theorem isTarget_widenToken (token : String) : isTarget (widenToken token) = isTarget token :=
  widenToken_congr (fun _ h => hasLead_mono (by decide) h) token

theorem occursIn_otherList_replaceAll (text : List Char) :
    occursIn otherList.toList (replaceAll otherList.toList allzoneList.toList text) = false := by
  have hNew : allzoneList.toList = 'a' :: "llzone.txt".toList := by decide
  refine occursIn_replaceFrom (by decide) hNew (by decide) (fun rest => ?_) 0 text
  -- No end of the new name begins the old one, so that what follows cannot complete it.
  simp [occursIn, otherList, allzoneList, startsWith_cons_cons]

theorem widenToken_widenToken (token : String) :
    widenToken (widenToken token) = widenToken token := by
  by_cases h : (hasLead ["--hostlist="] token && occursIn otherList.toList token.toList) = true
  · have hNone : occursIn otherList.toList (widenToken token).toList = false := by
      rw [widenToken, if_pos h, String.toList_ofList, occursIn_otherList_replaceAll]
    rw [widenToken, if_neg (by simp [hNone])]
  · have hSame : widenToken token = token := if_neg h
    rw [hSame, hSame]

end PresetCompiler

import Mathlib.Data.List.Basic
import PresetCompiler.Proofs.Filter.Switches

/-! Setting window sizes. To look ahead for the end of each block is to walk over the tokens once,
with a state that says what is owed where a block ends (`insertWindowSizes_eq`). The walk treats the
blocks of a token list one by one, it takes no notice of tokens that choose targets, and a second
walk finds nothing left to do. -/

namespace PresetCompiler

/-! ### The walk -/

/-- The state of the walk over the tokens: outside any block of interest, or in one that covers
port 443, which has or has not set a window size yet. -/
inductive WindowState
  | outside
  | covered (isSet : Bool)
  deriving DecidableEq, Repr

/-- The tokens owed where a block ends. -/
def WindowState.owed : WindowState → List String
  | .covered false => windowSizeTokens
  | _ => []

/-- The state after a token that does not end the block. -/
def WindowState.extend : WindowState → String → WindowState
  | .outside, _ => .outside
  | .covered isSet, token => .covered (isSet || setsWindowSize token)

/-- Walks over the tokens and sets the window size where a block that covers port 443 ends without
one. -/
def setWindowSizes (wildcard : Bool) (state : WindowState) : List String → List String
  | [] => state.owed
  | token :: rest =>
    if isBoundary token then
      state.owed ++ token ::
        setWindowSizes wildcard
          (if coversHttps wildcard token then .covered (setsWindowSize token) else .outside) rest
    else token :: setWindowSizes wildcard (state.extend token) rest

/-- The state of the walk behind a token that begins a block. -/
def WindowState.enter (wildcard : Bool) (token : String) : WindowState :=
  if coversHttps wildcard token then .covered (setsWindowSize token) else .outside

section Walk

variable {wildcard : Bool} {token : String}

theorem setWindowSizes_boundary (h : isBoundary token = true) (state : WindowState)
    (rest : List String) :
    setWindowSizes wildcard state (token :: rest) =
      state.owed ++ token :: setWindowSizes wildcard (.enter wildcard token) rest := by
  rw [setWindowSizes, if_pos h]
  rfl

theorem setWindowSizes_inner (h : isBoundary token = false) (state : WindowState)
    (rest : List String) :
    setWindowSizes wildcard state (token :: rest) =
      token :: setWindowSizes wildcard (state.extend token) rest := by
  rw [setWindowSizes, if_neg (by simp [h])]

/-- Up to the end of a block the walk only looks for a window size, and there it pays what it
owes. -/
theorem setWindowSizes_of_inner {inner : List String}
    (h : ∀ token ∈ inner, isBoundary token = false) (state : WindowState) :
    setWindowSizes wildcard state inner = inner ++ (inner.foldl WindowState.extend state).owed := by
  induction inner generalizing state with
  | nil => rfl
  | cons token rest ih =>
    rw [List.forall_mem_cons] at h
    rw [setWindowSizes_inner h.1, ih h.2, List.foldl_cons, List.cons_append]

theorem WindowState.foldl_extend_covered (isSet : Bool) (tokens : List String) :
    tokens.foldl extend (covered isSet) = covered (isSet || tokens.any setsWindowSize) := by
  induction tokens generalizing isSet with
  | nil => rw [List.any_nil, Bool.or_false]; rfl
  | cons token rest ih => rw [List.foldl_cons, extend, ih, List.any_cons, Bool.or_assoc]

/-! ### Block by block -/

/-- A token that begins a block ends the block before it, and nothing that follows matters there. -/
theorem setWindowSizes_append (h : isBoundary token = true) (state : WindowState)
    (front rest : List String) :
    setWindowSizes wildcard state (front ++ token :: rest) =
      setWindowSizes wildcard state front ++ setWindowSizes wildcard .outside (token :: rest) := by
  induction front generalizing state with
  | nil =>
    rw [List.nil_append, setWindowSizes_boundary h, setWindowSizes_boundary h]
    rfl
  | cons first front ih =>
    rw [List.cons_append]
    cases hFirst : isBoundary first with
    | true =>
      rw [setWindowSizes_boundary hFirst, setWindowSizes_boundary hFirst, ih, List.append_assoc,
        List.cons_append]
    | false =>
      rw [setWindowSizes_inner hFirst, setWindowSizes_inner hFirst, ih, List.cons_append]

/-! ### Looking ahead -/

theorem after?_toList_eq_some_iff {lead token : String} {rest : List Char} :
    Text.after? lead.toList token.toList = some rest ↔ token = lead ++ String.ofList rest := by
  rw [Text.after?_eq_some_iff, ← String.toList_inj, String.toList_append, String.toList_ofList]

/-- A token that filters TCP traffic begins a block. -/
theorem isBoundary_of_coversHttps {wildcard : Bool} {token : String}
    (h : coversHttps wildcard token = true) : isBoundary token = true := by
  rw [coversHttps] at h
  split at h
  · rename_i spec hSpec
    obtain rfl := after?_toList_eq_some_iff.mp hSpec
    have hLead : hasLead ["--filter-"] ("--filter-tcp=" ++ String.ofList spec) = true :=
      hasLead_iff.mpr ⟨"--filter-", List.mem_singleton_self _,
        "tcp=".toList ++ (String.ofList spec).toList, by rw [String.toList_append]; rfl⟩
    rw [isBoundary, hLead, Bool.true_or]
  · contradiction

/-- The walk up to the next boundary, and from there on. -/
theorem setWindowSizes_span (state : WindowState) (tokens : List String) :
    let inner := tokens.takeWhile fun next => !isBoundary next
    setWindowSizes wildcard state tokens =
      inner ++ (inner.foldl WindowState.extend state).owed ++
        setWindowSizes wildcard .outside (tokens.dropWhile fun next => !isBoundary next) := by
  intro inner
  have hInner : ∀ next ∈ inner, isBoundary next = false := fun next hNext => by
    simpa using List.all_eq_true.mp List.all_takeWhile next hNext
  conv_lhs =>
    rw [← List.takeWhile_append_dropWhile (p := fun next => !isBoundary next) (l := tokens)]
  rw [← setWindowSizes_of_inner hInner]
  cases hRest : tokens.dropWhile fun next => !isBoundary next with
  | nil => rw [List.append_nil]; exact (List.append_nil _).symm
  | cons boundary rest =>
    have hBoundary := List.head?_dropWhile_not (fun next => !isBoundary next) tokens
    rw [hRest] at hBoundary
    exact setWindowSizes_append (by simpa using hBoundary) state _ rest

theorem closeBlock_eq (token : String) (inner : List String) :
    closeBlock (token :: inner) = token ::
      (inner ++ (inner.foldl WindowState.extend (.covered (setsWindowSize token))).owed) := by
  rw [closeBlock, WindowState.foldl_extend_covered, List.any_cons]
  cases setsWindowSize token || inner.any setsWindowSize with
  | true => rw [if_pos rfl, WindowState.owed, List.append_nil]; simp
  | false => rfl

/-- To look ahead for the end of each block comes to the same as the walk. -/
theorem insertWindowSizes_eq (wildcard : Bool) (tokens : List String) :
    insertWindowSizes wildcard tokens = setWindowSizes wildcard .outside tokens := by
  induction tokens using insertWindowSizes.induct wildcard with
  | case1 => rw [insertWindowSizes, setWindowSizes]; rfl
  | case2 token rest hCovers ih =>
    rw [insertWindowSizes, if_pos hCovers, ih, closeBlock_eq,
      setWindowSizes_boundary (isBoundary_of_coversHttps hCovers), WindowState.enter,
      if_pos hCovers, setWindowSizes_span (.covered _) rest]
    rfl
  | case3 token rest hCovers ih =>
    rw [insertWindowSizes, if_neg hCovers, ih]
    cases hToken : isBoundary token with
    | true => rw [setWindowSizes_boundary hToken, WindowState.enter, if_neg hCovers]; rfl
    | false => rw [setWindowSizes_inner hToken]; rfl

theorem Switch.apply_pass_wssize (wildcard : Bool) :
    (wssize.pass wildcard).apply = setWindowSizes wildcard .outside :=
  funext (insertWindowSizes_eq wildcard)

/-! ### Separators -/

theorem WindowState.count_owed (state : WindowState) : state.owed.count separator = 0 := by
  rcases state with - | isSet
  · rfl
  · cases isSet <;> decide

theorem count_setWindowSizes (state : WindowState) (tokens : List String) :
    (setWindowSizes wildcard state tokens).count separator = tokens.count separator := by
  induction tokens generalizing state with
  | nil => exact state.count_owed
  | cons first rest ih =>
    cases hFirst : isBoundary first with
    | true =>
      rw [setWindowSizes_boundary hFirst, List.count_append, state.count_owed, Nat.zero_add,
        List.count_cons, List.count_cons, ih]
    | false => rw [setWindowSizes_inner hFirst, List.count_cons, List.count_cons, ih]

/-! ### Twice -/

/-- What is owed where a block ends is paid there and not owed again. -/
theorem setWindowSizes_owed (state : WindowState) :
    setWindowSizes wildcard state state.owed = state.owed := by
  rcases state with - | isSet
  · rfl
  · cases isSet <;> rfl

theorem setWindowSizes_owed_append (h : isBoundary token = true) (state : WindowState)
    (rest : List String) :
    setWindowSizes wildcard state (state.owed ++ token :: rest) =
      state.owed ++ token :: setWindowSizes wildcard (.enter wildcard token) rest := by
  rw [setWindowSizes_append h, setWindowSizes_owed, setWindowSizes_boundary h]
  rfl

theorem setWindowSizes_setWindowSizes (state : WindowState) (tokens : List String) :
    setWindowSizes wildcard state (setWindowSizes wildcard state tokens) =
      setWindowSizes wildcard state tokens := by
  induction tokens generalizing state with
  | nil => exact setWindowSizes_owed state
  | cons first rest ih =>
    cases hFirst : isBoundary first with
    | true => rw [setWindowSizes_boundary hFirst, setWindowSizes_owed_append hFirst, ih]
    | false => rw [setWindowSizes_inner hFirst, setWindowSizes_inner hFirst, ih]

/-! ### Tokens that choose targets -/

theorem WindowState.extend_of_isTarget (h : isTarget token = true) (state : WindowState) :
    state.extend token = state := by
  cases state with
  | outside => rfl
  | covered isSet => rw [extend, setsWindowSize_of_isTarget h, Bool.or_false]

theorem setWindowSizes_target (h : isTarget token = true) (state : WindowState)
    (rest : List String) :
    setWindowSizes wildcard state (token :: rest) =
      token :: setWindowSizes wildcard state rest := by
  rw [setWindowSizes_inner (isBoundary_of_isTarget h), state.extend_of_isTarget h]

variable {change : String → Option String} (h : ChangesTargets change)
include h

theorem ChangesTargets.filterMap_eq_self {tokens : List String}
    (hTokens : ∀ token ∈ tokens, isTarget token = false) : tokens.filterMap change = tokens :=
  (List.filterMap_congr fun token hToken => h.kept (hTokens token hToken)).trans List.filterMap_some

theorem ChangesTargets.filterMap_owed (state : WindowState) :
    state.owed.filterMap change = state.owed := by
  refine h.filterMap_eq_self fun token hToken => ?_
  have hWindow : ∀ token ∈ windowSizeTokens, isTarget token = false := by decide
  rcases state with - | isSet
  · simp [WindowState.owed] at hToken
  · cases isSet
    · exact hWindow token hToken
    · simp [WindowState.owed] at hToken

/-- Tokens that choose targets may be changed before window sizes are set or after. -/
theorem setWindowSizes_filterMap (state : WindowState) (tokens : List String) :
    setWindowSizes wildcard state (tokens.filterMap change) =
      (setWindowSizes wildcard state tokens).filterMap change := by
  induction tokens generalizing state with
  | nil => exact (h.filterMap_owed state).symm
  | cons first rest ih =>
    -- A token that may be dropped or changed leaves the state as it is, before and after the change.
    cases hTarget : isTarget first with
    | false =>
      have hKept := h.kept hTarget
      rw [List.filterMap_cons_some hKept]
      cases hFirst : isBoundary first with
      | true =>
        rw [setWindowSizes_boundary hFirst, setWindowSizes_boundary hFirst, List.filterMap_append,
          h.filterMap_owed, List.filterMap_cons_some hKept, ih]
      | false =>
        rw [setWindowSizes_inner hFirst, setWindowSizes_inner hFirst,
          List.filterMap_cons_some hKept, ih]
    | true =>
      rw [setWindowSizes_target hTarget]
      cases hResult : change first with
      | none => rw [List.filterMap_cons_none hResult, List.filterMap_cons_none hResult, ih]
      | some result =>
        rw [List.filterMap_cons_some hResult, List.filterMap_cons_some hResult,
          setWindowSizes_target (h.target hTarget hResult), ih]

end Walk

end PresetCompiler

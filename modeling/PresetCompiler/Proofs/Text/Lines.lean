import Mathlib.Tactic.MkIffOfInductiveProp
import PresetCompiler.Proofs.Text.Trim
import PresetCompiler.Text.Lines

/-! Lines joined to a text and read back. Joining and reading lose a carriage return at the end of
a line and an empty last line, and nothing else. The trimmed lines that are not blank come back
whatever ends them. -/

namespace PresetCompiler.Text

/-! ### Cutting -/

theorem pieces_eq_splitOnP (isCut : α → Bool) (xs : List α) :
    pieces isCut xs = xs.splitOnP isCut := by
  induction xs with
  | nil => rfl
  | cons x xs ih =>
    rw [pieces, List.splitOnP_cons_eq_if_modifyHead, ih]
    split
    · rfl
    · cases h : xs.splitOnP isCut with
      | nil => exact absurd h (List.splitOnP_ne_nil isCut xs)
      | cons run runs => rfl

theorem pieces_eq_singleton {isCut : α → Bool} {xs : List α} (h : ∀ x ∈ xs, isCut x = false) :
    pieces isCut xs = [xs] := by
  rw [pieces_eq_splitOnP, List.splitOnP_eq_singleton h]

theorem pieces_append_cons {isCut : α → Bool} {xs : List α} {cut : α}
    (h : ∀ x ∈ xs, isCut x = false) (hCut : isCut cut = true) (rest : List α) :
    pieces isCut (xs ++ cut :: rest) = xs :: pieces isCut rest := by
  rw [pieces_eq_splitOnP, pieces_eq_splitOnP, List.splitOnP_append_cons xs rest hCut,
    List.splitOnP_eq_singleton h]
  rfl

/-- Runs without cuts come back from their joined form. -/
theorem pieces_intercalate {isCut : α → Bool} {cut : α} (hCut : isCut cut = true)
    {runs : List (List α)} (h : ∀ run ∈ runs, ∀ x ∈ run, isCut x = false) (hNil : runs ≠ []) :
    pieces isCut (List.intercalate [cut] runs) = runs := by
  induction runs with
  | nil => exact absurd rfl hNil
  | cons run rest ih =>
    have hRun := h run List.mem_cons_self
    by_cases hRest : rest = []
    · rw [hRest, List.intercalate_singleton, pieces_eq_singleton hRun]
    · rw [List.intercalate_cons_of_ne_nil hRest, List.append_assoc, List.singleton_append,
        pieces_append_cons hRun hCut,
        ih (fun other hOther => h other (List.mem_cons_of_mem run hOther)) hRest]

theorem mem_intercalate {cut : List α} {runs : List (List α)} {x : α}
    (h : x ∈ List.intercalate cut runs) : x ∈ cut ∨ ∃ run ∈ runs, x ∈ run := by
  induction runs with
  | nil => simp at h
  | cons run rest ih =>
    by_cases hRest : rest = []
    · rw [hRest, List.intercalate_singleton] at h
      exact .inr ⟨run, List.mem_cons_self, h⟩
    · rw [List.intercalate_cons_of_ne_nil hRest, List.mem_append, List.mem_append] at h
      rcases h with (h | h) | h
      · exact .inr ⟨run, List.mem_cons_self, h⟩
      · exact .inl h
      · exact (ih h).imp_right fun ⟨other, hOther, hx⟩ =>
          ⟨other, List.mem_cons_of_mem run hOther, hx⟩

theorem mem_of_mem_pieces {isCut : α → Bool} {xs run : List α} {x : α}
    (hRun : run ∈ pieces isCut xs) (hx : x ∈ run) : x ∈ xs := by
  induction xs generalizing run with
  | nil => simp [pieces] at hRun; simp [hRun] at hx
  | cons y ys ih =>
    rw [pieces_eq_splitOnP, List.splitOnP_cons_eq_if_modifyHead, ← pieces_eq_splitOnP] at hRun
    split at hRun
    · rcases List.mem_cons.mp hRun with rfl | hRun
      · simp at hx
      · exact List.mem_cons_of_mem y (ih hRun hx)
    · cases hPieces : pieces isCut ys with
      | nil => exact absurd hPieces (pieces_ne_nil isCut ys)
      | cons first runs =>
        rw [hPieces, List.modifyHead_cons] at hRun
        rcases List.mem_cons.mp hRun with rfl | hRun
        · rcases List.mem_cons.mp hx with rfl | hx
          · exact List.mem_cons_self
          · exact List.mem_cons_of_mem y (ih (hPieces ▸ List.mem_cons_self) hx)
        · exact List.mem_cons_of_mem y (ih (hPieces ▸ List.mem_cons_of_mem first hRun) hx)

/-- Elements that are no cuts may be dropped before the cutting or after it. -/
theorem pieces_filter {isCut keep : α → Bool} (h : ∀ x, isCut x = true → keep x = true)
    (xs : List α) : pieces isCut (xs.filter keep) = (pieces isCut xs).map (List.filter keep) := by
  induction xs with
  | nil => rfl
  | cons x xs ih =>
    rw [List.filter_cons, pieces_eq_splitOnP isCut (x :: xs), List.splitOnP_cons_eq_if_modifyHead,
      ← pieces_eq_splitOnP]
    by_cases hCut : isCut x = true
    · rw [if_pos hCut, if_pos (h x hCut), pieces, if_pos hCut, ih]
      rfl
    · rw [if_neg hCut]
      cases hPieces : pieces isCut xs with
      | nil => exact absurd hPieces (pieces_ne_nil isCut xs)
      | cons run runs =>
        rw [hPieces] at ih
        by_cases hKeep : keep x = true
        · rw [if_pos hKeep, pieces, if_neg hCut, ih]
          simp [hKeep]
        · rw [if_neg hKeep, ih]
          simp [hKeep]

theorem pieces_append {isCut : α → Bool} {cut : α} (hCut : isCut cut = true) (xs rest : List α) :
    pieces isCut (xs ++ cut :: rest) = pieces isCut xs ++ pieces isCut rest := by
  simp only [pieces_eq_splitOnP, List.splitOnP_append_cons xs rest hCut]

theorem splitOnce_eq_some_iff {mark : Char} {text before after : List Char} :
    splitOnce mark text = some (before, after) ↔
      text = before ++ mark :: after ∧ mark ∉ before := by
  constructor
  · intro h
    have hText := List.takeWhile_append_dropWhile (p := (· ≠ mark)) (l := text)
    have hHead := List.head?_dropWhile_not (· ≠ mark) text
    rw [splitOnce] at h
    split at h
    · contradiction
    · rename_i c rest hRest
      obtain ⟨rfl, rfl⟩ := Prod.mk.inj (Option.some.inj h)
      rw [hRest] at hText hHead
      obtain rfl : c = mark := by simpa using hHead
      refine ⟨hText.symm, fun hMem => ?_⟩
      simpa using List.mem_takeWhile_imp hMem
  · rintro ⟨rfl, hMark⟩
    have hPass : ∀ c ∈ before, decide (c ≠ mark) = true := fun c hc =>
      decide_eq_true fun hSame => hMark (hSame ▸ hc)
    rw [splitOnce, List.dropWhile_append_of_pos hPass, List.takeWhile_append_of_pos hPass,
      List.dropWhile_cons_of_neg (by simp), List.takeWhile_cons_of_neg (by simp),
      List.append_nil]

theorem splitOnce_eq_none_iff {mark : Char} {text : List Char} :
    splitOnce mark text = none ↔ mark ∉ text := by
  constructor
  · intro h hMem
    obtain ⟨before, after, hText, hBefore⟩ := List.eq_append_cons_of_mem hMem
    rw [splitOnce_eq_some_iff.mpr ⟨hText, hBefore⟩] at h
    contradiction
  · intro h
    cases hSplit : splitOnce mark text with
    | none => rfl
    | some parts =>
      have hText := (splitOnce_eq_some_iff.mp hSplit).1
      exact absurd (hText ▸ List.mem_append_right _ List.mem_cons_self) h

/-! ### Carriage returns -/

/-- What a line ends in besides its content does not matter once it is trimmed. -/
@[simp] theorem trim_withoutReturn (line : List Char) : trim (withoutReturn line) = trim line := by
  rw [withoutReturn]
  split
  · rename_i hReturn
    obtain ⟨front, rfl⟩ := List.getLast?_eq_some_iff.mp hReturn
    rw [List.dropLast_concat, trim_append_blank (by decide)]
  · rfl

theorem withoutReturn_eq_self {line : List Char} (h : line.getLast? ≠ some '\r') :
    withoutReturn line = line :=
  if_neg h

theorem map_withoutReturn_eq_self {ls : List (List Char)}
    (h : ∀ line ∈ ls, line.getLast? ≠ some '\r') : ls.map withoutReturn = ls :=
  (List.map_congr_left fun line hLine => withoutReturn_eq_self (h line hLine)).trans
    (List.map_id' ls)

theorem length_withoutReturn_le (line : List Char) :
    (withoutReturn line).length ≤ line.length := by
  rw [withoutReturn]
  split <;> simp

theorem length_withoutReturn_lt {line : List Char} (h : line.getLast? = some '\r') :
    (withoutReturn line).length < line.length := by
  obtain ⟨front, rfl⟩ := List.getLast?_eq_some_iff.mp h
  simp [withoutReturn]

/-! ### Lines -/

theorem ne_feed_of_not_mem {line : List Char} (h : '\n' ∉ line) : ∀ c ∈ line, (c == '\n') = false :=
  fun c hc => by simpa using fun hFeed : c = '\n' => h (hFeed ▸ hc)

theorem lines_append_feed {line : List Char} (h : '\n' ∉ line) (text : List Char) :
    lines (line ++ '\n' :: text) = withoutReturn line :: lines text := by
  obtain ⟨run, runs, hRuns⟩ := List.exists_cons_of_ne_nil (pieces_ne_nil (· == '\n') text)
  simp only [lines, pieces_append_cons (ne_feed_of_not_mem h) (beq_self_eq_true '\n'), hRuns,
    List.dropLast_cons_cons, List.map_cons, List.getLast?_cons_cons, List.cons_append]

theorem lines_of_not_mem {text : List Char} (h : '\n' ∉ text) :
    lines text = [text].filter (· ≠ []) := by
  rw [lines, pieces_eq_singleton (ne_feed_of_not_mem h)]
  rfl

theorem not_mem_withoutReturn {c : Char} {line : List Char} (h : c ∉ line) :
    c ∉ withoutReturn line := by
  rw [withoutReturn]
  split
  · exact fun hc => h ((List.dropLast_sublist line).subset hc)
  · exact h

theorem not_mem_of_mem_pieces {text run : List Char} (h : run ∈ pieces (· == '\n') text) :
    '\n' ∉ run := fun hFeed => by
  simpa using not_isCut_of_mem_pieces h hFeed

theorem not_mem_of_mem_lines {text line : List Char} (h : line ∈ lines text) : '\n' ∉ line := by
  rcases List.mem_append.mp h with h | h
  · obtain ⟨run, hMem, rfl⟩ := List.mem_map.mp h
    exact not_mem_withoutReturn (not_mem_of_mem_pieces ((List.dropLast_sublist _).subset hMem))
  · have hLast := Option.mem_toList.mp (List.mem_filter.mp h).1
    exact not_mem_of_mem_pieces (List.mem_of_getLast? hLast)

theorem joinLines_cons {rest : List (List Char)} (h : rest ≠ []) (line : List Char) :
    joinLines (line :: rest) = line ++ '\n' :: joinLines rest := by
  simp [joinLines, List.intercalate_cons_of_ne_nil h]

/-- The lines of joined lines, up to a place with lines after it. -/
theorem lines_joinLines_append {front rest : List (List Char)} (h : ∀ line ∈ front, '\n' ∉ line)
    (hRest : rest ≠ []) :
    lines (joinLines (front ++ rest)) = front.map withoutReturn ++ lines (joinLines rest) := by
  induction front with
  | nil => rfl
  | cons line front ih =>
    rw [List.cons_append, joinLines_cons (by simp [hRest]),
      lines_append_feed (h line List.mem_cons_self),
      ih fun l hl => h l (List.mem_cons_of_mem line hl)]
    rfl

theorem lines_joinLines_concat {front : List (List Char)} {last : List Char}
    (h : ∀ line ∈ front ++ [last], '\n' ∉ line) :
    lines (joinLines (front ++ [last])) =
      front.map withoutReturn ++ [last].filter (· ≠ []) := by
  rw [lines_joinLines_append (fun line hLine => h line (List.mem_append_left _ hLine)) (by simp)]
  congr 1
  have : joinLines [last] = last := List.intercalate_singleton
  rw [this, lines_of_not_mem (h last (by simp))]

theorem joinLines_pieces (text : List Char) : joinLines (pieces (· == '\n') text) = text := by
  rw [joinLines, pieces_eq_splitOnP]
  exact List.intercalate_splitOn '\n'

theorem joinLines_injective {ls ls' : List (List Char)} (h : ∀ line ∈ ls, '\n' ∉ line)
    (h' : ∀ line ∈ ls', '\n' ∉ line) (hNil : ls ≠ []) (hNil' : ls' ≠ [])
    (hJoin : joinLines ls = joinLines ls') : ls = ls' := by
  have key {ls : List (List Char)} (h : ∀ line ∈ ls, '\n' ∉ line) (hNil : ls ≠ []) :
      pieces (· == '\n') (joinLines ls) = ls :=
    pieces_intercalate (by simp) (fun line hLine => ne_feed_of_not_mem (h line hLine)) hNil
  rw [← key h hNil, ← key h' hNil', hJoin]

/-! ### Content -/

/-- The trimmed lines that are not blank. -/
def content (ls : List (List Char)) : List (List Char) :=
  (ls.map trim).filter (· ≠ [])

theorem contentLines_eq (text : List Char) : contentLines text = content (lines text) := rfl

@[simp] theorem content_nil : content [] = [] := rfl

@[simp] theorem content_append (front rest : List (List Char)) :
    content (front ++ rest) = content front ++ content rest := by
  simp [content]

theorem content_cons (line : List Char) (rest : List (List Char)) :
    content (line :: rest) = content [line] ++ content rest :=
  content_append [line] rest

theorem content_cons_of_blank {line : List Char} (h : trim line = []) (rest : List (List Char)) :
    content (line :: rest) = content rest := by
  simp [content, h]

theorem content_cons_of_ne_nil {line : List Char} (h : trim line ≠ []) (rest : List (List Char)) :
    content (line :: rest) = trim line :: content rest := by
  simp [content, h]

/-- A line that content keeps as it is. -/
@[mk_iff] structure IsContent (line : List Char) : Prop where
  ne_nil : line ≠ []
  trim_eq : trim line = line
  noFeed : '\n' ∉ line

instance : DecidablePred IsContent := fun line => decidable_of_iff' _ (isContent_iff line)

theorem content_eq_self {ls : List (List Char)} (h : ∀ line ∈ ls, IsContent line) :
    content ls = ls := by
  have hMap : ls.map trim = ls :=
    (List.map_congr_left fun line hLine => (h line hLine).trim_eq).trans (List.map_id' ls)
  rw [content, hMap]
  exact List.filter_eq_self.mpr fun line hLine => by simpa using (h line hLine).ne_nil

theorem isContent_of_mem_content {ls : List (List Char)} (h : ∀ line ∈ ls, '\n' ∉ line)
    {line : List Char} (hLine : line ∈ content ls) : IsContent line := by
  obtain ⟨hMem, hNil⟩ := List.mem_filter.mp hLine
  obtain ⟨raw, hRaw, rfl⟩ := List.mem_map.mp hMem
  exact ⟨by simpa using hNil, trim_trim raw, not_mem_trim (h raw hRaw)⟩

theorem isContent_of_mem_contentLines {text line : List Char} (h : line ∈ contentLines text) :
    IsContent line :=
  isContent_of_mem_content (fun _ => not_mem_of_mem_lines) h

theorem content_eq_nil_iff {ls : List (List Char)} :
    content ls = [] ↔ ∀ line ∈ ls, trim line = [] := by
  simp [content, List.filter_eq_nil_iff]

@[simp] theorem content_map_withoutReturn (ls : List (List Char)) :
    content (ls.map withoutReturn) = content ls := by
  simp [content, Function.comp_def]

theorem content_filter_ne_nil (ls : List (List Char)) :
    content (ls.filter (· ≠ [])) = content ls := by
  induction ls with
  | nil => rfl
  | cons line rest ih =>
    rw [List.filter_cons, content_cons line rest]
    split
    · rw [content_cons, ih]
    · rename_i hNil
      obtain rfl : line = [] := by simpa using hNil
      rw [ih]
      rfl

theorem contentLines_of_not_mem {text : List Char} (h : '\n' ∉ text) :
    contentLines text = content [text] := by
  rw [contentLines_eq, lines_of_not_mem h, content_filter_ne_nil]

theorem contentLines_joinLines {ls : List (List Char)} (h : ∀ line ∈ ls, '\n' ∉ line) :
    contentLines (joinLines ls) = content ls := by
  rcases List.eq_nil_or_concat' ls with rfl | ⟨front, last, rfl⟩
  · rfl
  · rw [contentLines_eq, lines_joinLines_concat h, content_append, content_append,
      content_map_withoutReturn, content_filter_ne_nil]

theorem contentLines_joinLines_self {ls : List (List Char)} (h : ∀ line ∈ ls, IsContent line) :
    contentLines (joinLines ls) = ls := by
  rw [contentLines_joinLines fun line hLine => (h line hLine).noFeed, content_eq_self h]

end PresetCompiler.Text

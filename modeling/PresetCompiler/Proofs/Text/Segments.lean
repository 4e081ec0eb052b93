import PresetCompiler.Proofs.Text.Lines

/-! A text as its lines with their line feeds, so that lines can be taken out of the text itself.
What remains has the content of the lines that remain. -/

namespace PresetCompiler.Text

/-- The lines of a text, each with the line feed that ends it. -/
def endedLines : List Char → List (List Char)
  | [] => []
  | c :: text =>
    if c = '\n' then ['\n'] :: endedLines text
    else
      match endedLines text with
      | [] => [[c]]
      | line :: rest => (c :: line) :: rest

theorem flatten_endedLines (text : List Char) : (endedLines text).flatten = text := by
  induction text with
  | nil => rfl
  | cons c text ih =>
    rw [endedLines]
    by_cases hFeed : c = '\n'
    · rw [if_pos hFeed, List.flatten_cons, ih, hFeed]
      rfl
    · rw [if_neg hFeed]
      cases hRest : endedLines text with
      | nil =>
        rw [hRest] at ih
        rw [← ih]
        rfl
      | cons line rest =>
        rw [hRest] at ih
        rw [← ih]
        rfl

/-- Lines with their line feeds, which the last one may lack. -/
inductive EndsLines : List (List Char) → Prop
  | nil : EndsLines []
  | last {line : List Char} (noFeed : '\n' ∉ line) : EndsLines [line]
  | cons {line : List Char} {rest : List (List Char)} (noFeed : '\n' ∉ line)
      (ends : EndsLines rest) : EndsLines ((line ++ ['\n']) :: rest)

theorem endsLines_endedLines (text : List Char) : EndsLines (endedLines text) := by
  induction text with
  | nil => exact .nil
  | cons c text ih =>
    rw [endedLines]
    by_cases hFeed : c = '\n'
    · rw [if_pos hFeed]
      exact EndsLines.cons List.not_mem_nil ih
    · rw [if_neg hFeed]
      have hFront {line : List Char} (h : '\n' ∉ line) : '\n' ∉ c :: line := by
        simp [Ne.symm hFeed, h]
      generalize endedLines text = rest at ih
      cases ih with
      | nil => exact .last (hFront List.not_mem_nil)
      | last noFeed => exact .last (hFront noFeed)
      | cons noFeed ends => exact .cons (hFront noFeed) ends

/-- Lines may be taken out. -/
theorem EndsLines.sublist {ls kept : List (List Char)} (h : EndsLines ls)
    (hKept : kept.Sublist ls) : EndsLines kept := by
  induction h generalizing kept with
  | nil =>
    rw [List.sublist_nil.mp hKept]
    exact .nil
  | last noFeed =>
    rcases List.sublist_cons_iff.mp hKept with h | ⟨rest, rfl, h⟩
    · rw [List.sublist_nil.mp h]
      exact .nil
    · rw [List.sublist_nil.mp h]
      exact .last noFeed
  | cons noFeed ends ih =>
    rcases List.sublist_cons_iff.mp hKept with h | ⟨rest, rfl, h⟩
    · exact ih h
    · exact .cons noFeed (ih h)

theorem EndsLines.contentLines_flatten {ls : List (List Char)} (h : EndsLines ls) :
    contentLines ls.flatten = content ls := by
  induction h with
  | nil => rfl
  | @last line noFeed =>
    rw [contentLines_eq, List.flatten_singleton, lines_of_not_mem noFeed, content_filter_ne_nil]
  | @cons line rest noFeed ends ih =>
    rw [contentLines_eq] at ih ⊢
    rw [List.flatten_cons, List.append_assoc, List.singleton_append, lines_append_feed noFeed,
      content_cons, ih, content_cons (line ++ ['\n'])]
    simp [content, trim_append_blank (c := '\n') (by decide)]

theorem content_endedLines (text : List Char) : content (endedLines text) = contentLines text := by
  rw [← (endsLines_endedLines text).contentLines_flatten, flatten_endedLines]

end PresetCompiler.Text

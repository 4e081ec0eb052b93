import Mathlib.Data.List.DropRight
import PresetCompiler.Text.Blank

/-! Taking the elements at either end of a list away while they satisfy a test, and the case of
blanks at the ends of a text. What has none of them at either end is kept as it is. -/

namespace PresetCompiler.Text

/-! ### Any test -/

/-- The list without the elements at either end that satisfy the test. -/
def strip (test : α → Bool) (xs : List α) : List α :=
  (xs.dropWhile test).rdropWhile test

section Strip

variable {test : α → Bool} {xs : List α}

theorem strip_prefix_dropWhile (test : α → Bool) (xs : List α) :
    strip test xs <+: xs.dropWhile test :=
  List.rdropWhile_prefix test _

theorem strip_sublist (test : α → Bool) (xs : List α) : (strip test xs).Sublist xs :=
  (strip_prefix_dropWhile test xs).sublist.trans (List.dropWhile_sublist test)

theorem head?_strip {x : α} (h : x ∈ (strip test xs).head?) : test x = false := by
  obtain ⟨rest, hRest⟩ := List.head?_eq_some_iff.mp h
  obtain ⟨dropped, hDropped⟩ := strip_prefix_dropWhile test xs
  rw [hRest, List.cons_append] at hDropped
  have := List.head?_dropWhile_not test xs
  rw [← hDropped] at this
  simpa using this

theorem getLast?_strip {x : α} (h : x ∈ (strip test xs).getLast?) : test x = false := by
  obtain ⟨front, hFront⟩ := List.getLast?_eq_some_iff.mp h
  have hne : strip test xs ≠ [] := by rw [hFront]; simp
  have := List.rdropWhile_last_not test (xs.dropWhile test) hne
  rw [← Bool.not_eq_true]
  convert this
  simp only [← show strip test xs = List.rdropWhile test (xs.dropWhile test) from rfl, hFront,
    List.getLast_append_singleton]

/-- A list is kept exactly when neither its first nor its last element satisfies the test. -/
theorem strip_eq_self_iff :
    strip test xs = xs ↔ (∀ x ∈ xs.head?, test x = false) ∧ ∀ x ∈ xs.getLast?, test x = false := by
  constructor
  · intro h
    rw [← h]
    exact ⟨fun _ => head?_strip, fun _ => getLast?_strip⟩
  · rintro ⟨hHead, hLast⟩
    have hStart : xs.dropWhile test = xs := by
      cases xs with
      | nil => rfl
      | cons x xs => simp [hHead x rfl]
    rw [strip, hStart, List.rdropWhile_eq_self_iff]
    intro hne
    simp [hLast _ (List.getLast?_eq_some_getLast hne)]

theorem strip_strip : strip test (strip test xs) = strip test xs :=
  strip_eq_self_iff.mpr ⟨fun _ => head?_strip, fun _ => getLast?_strip⟩

/-- What is taken away at the two ends satisfies the test. -/
theorem exists_append_strip (test : α → Bool) (xs : List α) :
    ∃ front back, xs = front ++ strip test xs ++ back ∧ (∀ x ∈ front, test x = true) ∧
      ∀ x ∈ back, test x = true := by
  refine ⟨xs.takeWhile test, (xs.dropWhile test).rtakeWhile test, ?_,
    fun _ => List.mem_takeWhile_imp, fun _ => List.mem_rtakeWhile_imp⟩
  rw [strip, List.append_assoc, List.rdropWhile_append_rtakeWhile,
    List.takeWhile_append_dropWhile]

theorem strip_append_right {back : List α} (h : ∀ x ∈ back, test x = true) :
    strip test (xs ++ back) = strip test xs := by
  rw [strip, strip, List.dropWhile_append]
  split
  · rename_i hEmpty
    rw [List.isEmpty_iff.mp hEmpty, List.dropWhile_eq_nil_iff.mpr h]
  · rw [List.rdropWhile, List.rdropWhile, List.reverse_append,
      List.dropWhile_append_of_pos fun x hx => h x (List.mem_reverse.mp hx)]

theorem strip_append_left {front : List α} (h : ∀ x ∈ front, test x = true) :
    strip test (front ++ xs) = strip test xs := by
  rw [strip, strip, List.dropWhile_append_of_pos h]

theorem filterMap_strip {f : α → Option β} (h : ∀ x, test x = true → f x = none) (xs : List α) :
    (strip test xs).filterMap f = xs.filterMap f := by
  obtain ⟨front, back, hSplit, hFront, hBack⟩ := exists_append_strip test xs
  have hNone : ∀ ys : List α, (∀ x ∈ ys, test x = true) → ys.filterMap f = [] := fun ys hys =>
    List.filterMap_eq_nil_iff.mpr fun x hx => h x (hys x hx)
  conv_rhs => rw [hSplit]
  simp [hNone front hFront, hNone back hBack]

end Strip

/-! ### Blanks -/

theorem trim_eq_strip (text : List Char) : trim text = strip isBlank text := rfl

theorem not_mem_trim {c : Char} {text : List Char} (h : c ∉ text) : c ∉ trim text :=
  fun hc => h ((strip_sublist isBlank text).subset hc)

theorem mem_trim {c : Char} (h : isBlank c = false) {text : List Char} :
    c ∈ trim text ↔ c ∈ text := by
  constructor
  · intro hc
    exact (strip_sublist isBlank text).subset hc
  · intro hc
    obtain ⟨front, back, hSplit, hFront, hBack⟩ := exists_append_strip isBlank text
    rw [hSplit, List.mem_append, List.mem_append] at hc
    rcases hc with (hc | hc) | hc
    · rw [hFront c hc] at h
      contradiction
    · exact hc
    · rw [hBack c hc] at h
      contradiction

/-- A text is its own trimmed form exactly when it has no blank at either end. -/
theorem trim_eq_self_iff {text : List Char} :
    trim text = text ↔
      (∀ c ∈ text.head?, isBlank c = false) ∧ ∀ c ∈ text.getLast?, isBlank c = false :=
  strip_eq_self_iff

@[simp] theorem trim_trim (text : List Char) : trim (trim text) = trim text :=
  strip_strip

@[simp] theorem trim_nil : trim [] = [] := rfl

theorem trim_append_append {front back : List Char} (hFront : ∀ c ∈ front, isBlank c = true)
    (hBack : ∀ c ∈ back, isBlank c = true) (text : List Char) :
    trim (front ++ text ++ back) = trim text := by
  rw [trim_eq_strip, strip_append_right hBack, strip_append_left hFront, trim_eq_strip]

theorem trim_append_blank {c : Char} (h : isBlank c = true) (text : List Char) :
    trim (text ++ [c]) = trim text :=
  strip_append_right (by simpa using h)

theorem trim_cons_blank {c : Char} (h : isBlank c = true) (text : List Char) :
    trim (c :: text) = trim text := by
  rw [trim_eq_strip, ← List.singleton_append, strip_append_left (by simpa using h)]
  rfl

end PresetCompiler.Text

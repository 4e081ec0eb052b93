/-! Blank characters, trimming, and cutting a list at the elements that satisfy a test. Text is
handled as a list of characters; `String` appears only where a value is stored. -/

namespace PresetCompiler.Text

/-- The Unicode property White_Space. -/
def isBlank (c : Char) : Bool :=
  let n := c.toNat
  (9 ≤ n && n ≤ 13) || n == 0x20 || n == 0x85 || n == 0xA0 || n == 0x1680 ||
    (0x2000 ≤ n && n ≤ 0x200A) || n == 0x2028 || n == 0x2029 || n == 0x202F || n == 0x205F ||
    n == 0x3000

/-- Every character that the core library calls white space is blank. -/
theorem isBlank_of_isWhitespace {c : Char} (h : c.isWhitespace = true) : isBlank c = true := by
  simp only [Char.isWhitespace, Bool.or_eq_true, decide_eq_true_eq] at h
  rcases h with ((rfl | rfl) | rfl) | rfl <;> decide

/-- The text without the blanks at its start. -/
def trimStart (text : List Char) : List Char :=
  text.dropWhile isBlank

/-- The text without the blanks at its end. -/
def trimEnd (text : List Char) : List Char :=
  (text.reverse.dropWhile isBlank).reverse

/-- The text without the blanks at either end. -/
def trim (text : List Char) : List Char :=
  trimEnd (trimStart text)

/-- Whether a text has no character other than blanks. -/
def allBlank (text : List Char) : Bool :=
  text.all isBlank

/-- The runs between the elements that satisfy `isCut`, which are left out themselves. There is
always one run more than there are such elements. -/
def pieces (isCut : α → Bool) : List α → List (List α)
  | [] => [[]]
  | x :: xs =>
    if isCut x then [] :: pieces isCut xs
    else
      match pieces isCut xs with
      | [] => [[x]]
      | run :: runs => (x :: run) :: runs

theorem pieces_ne_nil (isCut : α → Bool) (xs : List α) : pieces isCut xs ≠ [] := by
  cases xs with
  | nil => simp [pieces]
  | cons x xs =>
    simp only [pieces]
    split
    · simp
    · split <;> simp

/-- No run holds an element that satisfies the test. -/
theorem not_isCut_of_mem_pieces {isCut : α → Bool} {xs run : List α} {x : α}
    (hRun : run ∈ pieces isCut xs) (hx : x ∈ run) : isCut x = false := by
  induction xs generalizing run with
  | nil => simp [pieces] at hRun; subst hRun; simp at hx
  | cons y ys ih =>
    simp only [pieces] at hRun
    split at hRun
    · rcases List.mem_cons.1 hRun with rfl | hRun
      · simp at hx
      · exact ih hRun hx
    · rename_i hy
      split at hRun
      · rename_i hNil
        exact absurd hNil (pieces_ne_nil isCut ys)
      · rename_i first runs hPieces
        rcases List.mem_cons.1 hRun with rfl | hRun
        · rcases List.mem_cons.1 hx with rfl | hx
          · simpa using hy
          · exact ih (by rw [hPieces]; exact List.mem_cons_self) hx
        · exact ih (by rw [hPieces]; exact List.mem_cons_of_mem _ hRun) hx

/-- The maximal runs of characters that are not blank. -/
def words (text : List Char) : List (List Char) :=
  (pieces isBlank text).filter (· ≠ [])

/-- The part before the first `mark` and the part after it, when there is one. -/
def splitOnce (mark : Char) (text : List Char) : Option (List Char × List Char) :=
  match text.dropWhile (· ≠ mark) with
  | [] => none
  | _ :: rest => some (text.takeWhile (· ≠ mark), rest)

/-- The part before the last `mark` and the part after it, when there is one. -/
def splitLast (mark : Char) (text : List Char) : Option (List Char × List Char) :=
  (splitOnce mark text.reverse).map fun (after, before) => (before.reverse, after.reverse)

end PresetCompiler.Text

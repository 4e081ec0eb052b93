import PresetCompiler.Proofs.Toml.Strings
import PresetCompiler.Toml.Reader
import PresetCompiler.Toml.Writer

/-! The lines of a document are read back: keys, values that take one line, headers, and then the
document from line to line. Every lemma is about a text at the start of a longer one, and says what
may follow it. -/

namespace PresetCompiler.Toml

open Text

variable {draft draft' final : Draft} {fuel : Nat} {rest : List Char}

/-! ### Keys -/

/-- A key is written as it is or between single marks. -/
theorem writeKey_cases (key : String) :
    (writeKey key = key.toList ∧ key.toList ≠ [] ∧ ∀ c ∈ key.toList, isBareKeyChar c = true) ∨
      ∃ style : QuoteStyle, writeKey key = style.write key.toList ∧ style.Holds key.toList ∧
        style.multiline = false := by
  simp only [writeKey]
  split
  · rename_i hBare
    exact .inl ⟨rfl, hBare.1, List.all_eq_true.1 hBare.2⟩
  · exact .inr ⟨_, rfl, QuoteStyle.holds_keyStyle key.toList⟩

/-- A character that a written key may start with. -/
def StartsKey (c : Char) : Prop :=
  isBareKeyChar c = true ∨ c = '"' ∨ c = '\''

theorem exists_writeKey_eq_cons (key : String) :
    ∃ c tail, writeKey key = c :: tail ∧ StartsKey c := by
  rcases writeKey_cases key with ⟨hKey, hNil, hBare⟩ | ⟨style, hKey, hHolds, hSingle⟩
  · obtain ⟨c, tail, hText⟩ := List.exists_cons_of_ne_nil hNil
    exact ⟨c, tail, hKey.trans hText, .inl (hBare c (by simp [hText]))⟩
  · exact ⟨_, _, hKey.trans (QuoteStyle.write_of_single hSingle _), .inr hHolds.mark⟩

/-- What a document skips, and what starts or ends another thing, does not start a key. -/
theorem StartsKey.ne {c d : Char} (hc : StartsKey c)
    (hd : d ∈ [' ', '\t', '\n', '\r', '#', '[', '.', ']', '=']) : c ≠ d := by
  rintro rfl
  rcases hc with hc | rfl | rfl
  · have hNone : [' ', '\t', '\n', '\r', '#', '[', '.', ']', '='].all (!isBareKeyChar ·) := by
      decide
    have hNot := List.all_eq_true.1 hNone c hd
    simp [hc] at hNot
  · exact absurd hd (by decide)
  · exact absurd hd (by decide)

theorem skipSpaces_cons {c : Char} (hc : isSpace c = false) (text : List Char) :
    skipSpaces (c :: text) = c :: text :=
  List.dropWhile_cons_of_neg (by simp [hc])

theorem skipSpaces_writeKey (key : String) (rest : List Char) :
    skipSpaces (writeKey key ++ rest) = writeKey key ++ rest := by
  obtain ⟨c, tail, hKey, hc⟩ := exists_writeKey_eq_cons key
  have hBlank : c ≠ ' ' := hc.ne (by simp)
  have hTab : c ≠ '\t' := hc.ne (by simp)
  rw [hKey, List.cons_append, skipSpaces_cons (by simp [isSpace, hBlank, hTab])]

/-- A key is read back before anything that does not continue it. -/
theorem readKeyPart?_writeKey (key : String) (hRest : ∀ c ∈ rest.head?, isBareKeyChar c = false) :
    readKeyPart? (writeKey key ++ rest) = some (key, rest) := by
  rcases writeKey_cases key with ⟨hKey, hNil, hBare⟩ | ⟨style, hKey, hHolds, hSingle⟩
  · obtain ⟨c, tail, hText⟩ := List.exists_cons_of_ne_nil hNil
    have hQuote : ¬ (c = '"' ∨ c = '\'') := by
      have hc := hBare c (by simp [hText])
      rintro (rfl | rfl) <;> simp [isBareKeyChar] at hc
    have hRest : rest.takeWhile isBareKeyChar = [] ∧ rest.dropWhile isBareKeyChar = rest := by
      cases rest with
      | nil => exact ⟨rfl, rfl⟩
      | cons d rest => simp [hRest d rfl]
    have hTake : (key.toList ++ rest).takeWhile isBareKeyChar = key.toList := by
      rw [List.takeWhile_append_of_pos hBare, hRest.1, List.append_nil]
    have hDrop : (key.toList ++ rest).dropWhile isBareKeyChar = rest := by
      rw [List.dropWhile_append_of_pos hBare, hRest.2]
    rw [hText, List.cons_append] at hTake hDrop
    rw [hKey, hText, List.cons_append, readKeyPart?, if_neg hQuote, hTake, hDrop, ← hText]
    simp [hNil]
  · have hRead := QuoteStyle.readLineString?_write hHolds hSingle rest
    rw [QuoteStyle.write_of_single hSingle, List.cons_append] at hRead
    rw [hKey, QuoteStyle.write_of_single hSingle, List.cons_append, readKeyPart?,
      if_pos hHolds.mark, hRead]
    simp

/-- What may follow a dotted key. -/
def EndsKey (rest : List Char) : Prop :=
  (∀ c ∈ rest.head?, isBareKeyChar c = false) ∧ ∀ more, skipSpaces rest ≠ '.' :: more

/-- The parts of a dotted key are read back. -/
theorem readKeyParts?_path (path : List String) (hPath : path ≠ []) (hFuel : path.length ≤ fuel)
    (hRest : EndsKey rest) :
    readKeyParts? fuel (List.intercalate ['.'] (path.map writeKey) ++ rest) =
      some (path, skipSpaces rest) := by
  induction path generalizing fuel with
  | nil => exact absurd rfl hPath
  | cons key path ih =>
    obtain ⟨fuel, rfl⟩ : ∃ n, fuel = n + 1 := ⟨fuel - 1, by simp at hFuel; omega⟩
    cases path with
    | nil =>
      rw [List.map_singleton, List.intercalate_singleton, readKeyParts?, skipSpaces_writeKey,
        readKeyPart?_writeKey key hRest.1]
      simp only [Option.bind_eq_bind, Option.bind_some]
      split
      · rename_i more hDot
        exact absurd hDot (hRest.2 more)
      · rfl
    | cons key' path =>
      have ih := ih (by simp) (by simpa using hFuel)
      rw [List.map_cons] at ih
      rw [List.map_cons, List.intercalate_cons_of_ne_nil (by simp), List.append_assoc,
        List.append_assoc, readKeyParts?, skipSpaces_writeKey,
        readKeyPart?_writeKey key (by simp [isBareKeyChar])]
      simp only [List.map_cons, Option.bind_eq_bind, Option.bind_some, List.singleton_append]
      rw [skipSpaces_cons (by decide)]
      simp [ih]

/-- A dotted key that is not too long is read back. -/
theorem readKey?_path (parents : List String) (key : String)
    (hLength : parents.length + 1 < depthLimit) (hRest : EndsKey rest) :
    readKey? (List.intercalate ['.'] ((parents ++ [key]).map writeKey) ++ rest) =
      some (⟨parents, key⟩, skipSpaces rest) := by
  have hFuel : (parents ++ [key]).length ≤ depthLimit := by
    simp
    omega
  have hParts := readKeyParts?_path (parents ++ [key]) (by simp) hFuel hRest
  rw [readKey?, hParts]
  simp [hLength]

/-! ### Values -/

/-- A text or a flag, which is written behind its key. -/
def Value.IsPlain : Value → Prop
  | .string _ => True
  | .boolean _ => True
  | _ => False

/-- Texts and flags are read back before anything but a quote. -/
theorem readValue?_write {value : Value} (h : value.IsPlain) (depth : Nat)
    (hRest : ∀ mark ∈ ['"', '\''], rest.head? ≠ some mark) :
    readValue? (fuel + 1) depth (skipSpaces (value.write ++ rest)) = some (value, rest) := by
  match value with
  | .string text =>
    obtain ⟨tail, hText⟩ := (stringStyle text.toList).exists_write_eq_cons text.toList
    have hMark := (QuoteStyle.holds_stringStyle text.toList).mark
    have hRead := readString?_writeString text hRest
    rw [writeString, hText] at hRead
    rw [Value.write, writeString, hText]
    -- the mark decides at once which reader is meant
    have hScalar : readScalar? ((stringStyle text.toList).mark :: tail ++ rest) =
        some (.string text, rest) := by
      rw [List.cons_append] at hRead ⊢
      simp [readScalar?, hMark, hRead]
    rw [← hScalar]
    rcases hMark with hMark | hMark <;> rw [hMark] <;> rfl
  | .boolean true => rfl
  | .boolean false => rfl

/-! ### Statements -/

/-- A line that gives a key its value. -/
theorem readStatement?_entry {key : String} {value : Value} (h : value.IsPlain)
    (hAdd : draft.add? ⟨[], key⟩ value = some draft') :
    readStatement? draft (writeEntry (writeKey key, value.write) ++ '\n' :: rest) =
      some (draft', '\n' :: rest) := by
  have hLine : writeEntry (writeKey key, value.write) ++ '\n' :: rest =
      writeKey key ++ ' ' :: '=' :: ' ' :: (value.write ++ '\n' :: rest) := by
    simp [writeEntry]
  have hEnds : EndsKey (' ' :: '=' :: ' ' :: (value.write ++ '\n' :: rest)) :=
    ⟨by simp [isBareKeyChar], by intro more; simp [skipSpaces, isSpace]⟩
  have hKey := readKey?_path [] key (by decide) hEnds
  rw [List.nil_append, List.map_singleton, List.intercalate_singleton] at hKey
  -- a line that starts with a key starts with no bracket, so it is no header
  obtain ⟨c, tail, hText, hc⟩ := exists_writeKey_eq_cons key
  have hBracket : c ≠ '[' := hc.ne (by simp)
  rw [hLine]
  rw [hText, List.cons_append] at hKey ⊢
  rw [readStatement?.eq_def]
  split
  · rename_i hOther
    exact absurd (List.cons.inj hOther).1 hBracket
  · rename_i hOther
    exact absurd (List.cons.inj hOther).1 hBracket
  · have hEquals : skipSpaces (' ' :: '=' :: ' ' :: (value.write ++ '\n' :: rest)) =
        '=' :: ' ' :: (value.write ++ '\n' :: rest) := by
      simp [skipSpaces, isSpace]
    have hBlank : skipSpaces (' ' :: (value.write ++ '\n' :: rest)) =
        skipSpaces (value.write ++ '\n' :: rest) := by
      simp [skipSpaces, isSpace]
    simp only [hKey, hEquals, afterMark?, if_true, Option.bind_eq_bind, Option.bind_some, hBlank]
    rw [readValue?_write h 0 (by simp)]
    simp [hAdd]

theorem exists_path_eq_cons (parents : List String) (key : String) :
    ∃ c tail, List.intercalate ['.'] ((parents ++ [key]).map writeKey) = c :: tail ∧
      StartsKey c := by
  cases parents with
  | nil => simpa using exists_writeKey_eq_cons key
  | cons parent parents =>
    obtain ⟨c, tail, hText, hc⟩ := exists_writeKey_eq_cons parent
    rw [List.cons_append, List.map_cons, List.intercalate_cons_of_ne_nil (by simp), hText]
    exact ⟨c, _, by rw [List.cons_append, List.cons_append], hc⟩

/-- A header line. -/
theorem readStatement?_header {parents : List String} {key : String}
    (hLength : parents.length + 1 < depthLimit)
    (hOpen : draft.open? ⟨parents, key⟩ = some draft') :
    readStatement? draft
        ('[' :: (List.intercalate ['.'] ((parents ++ [key]).map writeKey) ++ ']' :: '\n' :: rest)) =
      some (draft', '\n' :: rest) := by
  have hEnds : EndsKey (']' :: '\n' :: rest) :=
    ⟨by simp [isBareKeyChar], by intro more; simp [skipSpaces, isSpace]⟩
  have hKey := readKey?_path parents key hLength hEnds
  obtain ⟨c, tail, hText, hc⟩ := exists_path_eq_cons parents key
  have hBracket : c ≠ '[' := hc.ne (by simp)
  rw [hText, List.cons_append] at hKey ⊢
  rw [readStatement?.eq_def]
  split
  · rename_i hOther
    exact absurd (List.cons.inj (List.cons.inj hOther).2).1 hBracket
  · rename_i hOther
    obtain ⟨-, rfl⟩ := List.cons.inj hOther
    have hEnd : skipSpaces (']' :: '\n' :: rest) = ']' :: '\n' :: rest := by
      simp [skipSpaces, isSpace]
    simp [hKey, hEnd, afterMark?, hOpen]
  · rename_i hOther
    exact absurd rfl (hOther _)

/-! ### Documents -/

/-- From one draft, the rest of a document makes another. -/
def Draft.Reads (draft : Draft) (text : List Char) (final : Draft) : Prop :=
  ∀ fuel, text.length < fuel → readStatements? fuel draft text = some final

theorem Draft.Reads.nil (draft : Draft) : draft.Reads [] draft := by
  intro fuel hFuel
  cases fuel with
  | zero => simp at hFuel
  | succ fuel => rfl

theorem Draft.Reads.emptyLine (h : draft.Reads rest final) : draft.Reads ('\n' :: rest) final := by
  intro fuel hFuel
  cases fuel with
  | zero => simp at hFuel
  | succ fuel => exact h fuel (by simpa using hFuel)

/-- A line that starts with neither a blank, a line end nor a comment is a statement. -/
theorem Draft.Reads.statement {line : List Char}
    (hLine : ∃ c tail, line = c :: tail ∧ c ∉ [' ', '\t', '\n', '\r', '#'])
    (hStatement : readStatement? draft line = some (draft', '\n' :: rest))
    (hShorter : rest.length < line.length) (h : draft'.Reads rest final) :
    draft.Reads line final := by
  intro fuel hFuel
  obtain ⟨c, tail, rfl, hc⟩ := hLine
  obtain ⟨fuel, rfl⟩ : ∃ n, fuel = n + 1 := ⟨fuel - 1, by omega⟩
  have hRead : readStatements? fuel draft' rest = some final := h fuel (by omega)
  simp only [List.mem_cons, not_or] at hc
  obtain ⟨hBlank, hTab, hFeed, hReturn, hHash, -⟩ := hc
  have hSkip : skipSpaces (c :: tail) = c :: tail :=
    skipSpaces_cons (by simp [isSpace, hBlank, hTab]) tail
  have hAfter : afterLine? (c :: tail) = none := by
    rw [afterLine?, hSkip, skipComment, if_neg hHash]
    exact afterLineEnd?_cons hFeed hReturn
  have hNext : afterLine? ('\n' :: rest) = some rest := rfl
  rw [readStatements?, hSkip]
  simp [hAfter, hStatement, hNext, hRead]

theorem Draft.Reads.entry {key : String} {value : Value} (hPlain : value.IsPlain)
    (hAdd : draft.add? ⟨[], key⟩ value = some draft') (h : draft'.Reads rest final) :
    draft.Reads (writeEntry (writeKey key, value.write) ++ '\n' :: rest) final := by
  obtain ⟨c, tail, hKey, hc⟩ := exists_writeKey_eq_cons key
  have hLine : writeEntry (writeKey key, value.write) ++ '\n' :: rest =
      c :: (tail ++ " = ".toList ++ value.write ++ '\n' :: rest) := by
    simp [writeEntry, hKey]
  have hFirst : c ∉ [' ', '\t', '\n', '\r', '#'] := fun hMem =>
    hc.ne (List.mem_append_left ['[', '.', ']', '='] hMem) rfl
  refine Draft.Reads.statement ⟨c, _, hLine, hFirst⟩ (readStatement?_entry hPlain hAdd) ?_ h
  simp
  omega

theorem Draft.Reads.header {parents : List String} {key : String}
    (hLength : parents.length + 1 < depthLimit)
    (hOpen : draft.open? ⟨parents, key⟩ = some draft') (h : draft'.Reads rest final) :
    draft.Reads ('[' :: (List.intercalate ['.'] ((parents ++ [key]).map writeKey) ++
      ']' :: '\n' :: rest)) final := by
  refine Draft.Reads.statement ⟨'[', _, rfl, by decide⟩ (readStatement?_header hLength hOpen) ?_ h
  simp
  omega

end PresetCompiler.Toml

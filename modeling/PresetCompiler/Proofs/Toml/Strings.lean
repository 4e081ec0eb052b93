import PresetCompiler.Toml.Spelling

/-! Quoted strings are read back. Reading goes from state to state, so a piece of a written string
is described by what it adds to the string and by the state after it. Whether marks in a row belong
to the string or end it shows only after them: they are added with the next character, and until
then the state counts them. -/

namespace PresetCompiler.Toml

theorem afterLineEnd?_cons {c : Char} {text : List Char} (hFeed : c ≠ '\n') (hReturn : c ≠ '\r') :
    afterLineEnd? (c :: text) = none := by
  rw [afterLineEnd?.eq_def]
  split <;> simp_all

namespace QuoteStyle

variable {style : QuoteStyle} {state state' state'' : QuotedState} {seen : Nat} {c : Char}
  {text rest : List Char}

/-! ### Pieces of a string -/

/-- From one state, a piece adds a text to the string and leads to another state, whatever
follows. -/
def Reads (style : QuoteStyle) (state : QuotedState) (piece text : List Char)
    (state' : QuotedState) : Prop :=
  ∀ rest, style.read? state (piece ++ rest) =
    (style.read? state' rest).map fun (more, rest) => (text ++ more, rest)

theorem Reads.trans {piece piece' text' : List Char} (h : style.Reads state piece text state')
    (h' : style.Reads state' piece' text' state'') :
    style.Reads state (piece ++ piece') (text ++ text') state'' := by
  intro rest
  rw [List.append_assoc, h, h', Option.map_map]
  simp [Function.comp_def]

theorem Reads.read?_append {piece more rest' : List Char} (h : style.Reads state piece text state')
    (hRest : style.read? state' rest = some (more, rest')) :
    style.read? state (piece ++ rest) = some (text ++ more, rest') := by
  rw [h, hRest]
  rfl

/-- One step, from a state in which the string has not ended. -/
theorem Reads.of_next (hOpen : style.endsBefore state c = false)
    (hNext : style.next state c = some (text, state')) : style.Reads state [c] text state' := by
  intro rest
  rw [List.singleton_append, read?, if_neg (by simp [hOpen]), hNext]
  simp only [Option.bind_eq_bind, Option.bind_some]
  cases style.read? state' rest <;> rfl

/-- The state after so many marks in a row. -/
def afterMarks : Nat → QuotedState
  | 0 => .plain
  | seen + 1 => .marks (seen + 1)

@[simp] theorem afterMarks_zero : afterMarks 0 = .plain := rfl

/-- Fewer marks than stand at the end of a string do not end it. -/
theorem endsBefore_afterMarks (hSeen : seen < style.delimiter.length) (c : Char) :
    style.endsBefore (afterMarks seen) c = false := by
  cases seen with
  | zero => rfl
  | succ seen =>
    simp only [delimiter, List.length_replicate] at hSeen
    split at hSeen
    · rename_i hMultiline
      have : ¬ 3 ≤ seen + 1 := by omega
      simp [afterMarks, endsBefore, hMultiline, this]
    · omega

theorem reads_mark (h : style.multiline = true ∨ seen = 0) :
    style.Reads (afterMarks seen) [style.mark] [] (afterMarks (seen + 1)) := by
  cases seen with
  | zero =>
    apply Reads.of_next
    · rfl
    · simp [afterMarks, next, plainNext]
  | succ seen =>
    have hMultiline : style.multiline = true := by simpa using h
    apply Reads.of_next
    · simp [afterMarks, endsBefore, hMultiline]
    · simp [afterMarks, next]

/-- The marks before a character that is none are added with it. -/
theorem reads_of_plainNext (hSeen : seen < style.delimiter.length) (hc : c ≠ style.mark)
    (hNext : style.plainNext c = some (text, state)) :
    style.Reads (afterMarks seen) [c] (List.replicate seen style.mark ++ text) state := by
  apply Reads.of_next (endsBefore_afterMarks hSeen c)
  cases seen with
  | zero => simpa [afterMarks, next] using hNext
  | succ seen => simp [afterMarks, next, hc, hNext]

/-- The marks at the end of a string, after some that belong to it. -/
theorem read?_delimiter (hSeen : seen < style.delimiter.length)
    (hRest : style.multiline = true → rest.head? ≠ some style.mark) :
    style.read? (afterMarks seen) (style.delimiter ++ rest) =
      some (List.replicate seen style.mark, rest) := by
  by_cases hMultiline : style.multiline = true
  · have hMarks : style.delimiter = [style.mark] ++ ([style.mark] ++ [style.mark]) := by
      simp [delimiter, hMultiline, List.replicate_succ]
    have hCount : seen ≤ 2 := by
      rw [hMarks] at hSeen
      simp at hSeen
      omega
    -- at most five marks stand in a row here, and the last three of them end the string
    have hTail : style.tail? (afterMarks (seen + 1 + 1 + 1)) =
        some (List.replicate seen style.mark) := by
      simp [afterMarks, tail?, hMultiline]
      omega
    rw [hMarks, (reads_mark (.inl hMultiline)).trans
      ((reads_mark (.inl hMultiline)).trans (reads_mark (.inl hMultiline)))]
    cases rest with
    | nil => simp [read?, hTail]
    | cons d rest =>
      have hd : d ≠ style.mark := by simpa using hRest hMultiline
      simp [read?, endsBefore, afterMarks, hMultiline, hd]
      exact hTail
  · have hMarks : style.delimiter = [style.mark] := by simp [delimiter, hMultiline]
    have hZero : seen = 0 := by simpa [hMarks] using hSeen
    subst hZero
    rw [hMarks, reads_mark (.inr rfl)]
    cases rest <;> simp [read?, endsBefore, afterMarks, tail?, hMultiline]

/-! ### Texts that stand for themselves -/

/-- A character that nothing gives another meaning stands for itself. -/
theorem plainNext_of_plain (hMark : c ≠ style.mark) (hEscape : style.escapes = true → c ≠ '\\')
    (hControl : isControl c = false) (hLine : c = '\n' → style.multiline = true) :
    style.plainNext c = some ([c], .plain) := by
  have hReturn : c ≠ '\r' := by
    rintro rfl
    simp [isControl] at hControl
  by_cases hFeed : c = '\n'
  · subst hFeed
    simp [plainNext, hMark, hLine rfl]
  · have hPrintable : isPrintable c = true := by
      simp only [isControl, Bool.or_eq_false_iff, Bool.and_eq_false_iff, decide_eq_false_iff_not]
        at hControl
      simp only [isPrintable, Bool.or_eq_true, Bool.and_eq_true, decide_eq_true_eq]
      by_cases hTab : c = '\t'
      · exact .inl hTab
      · right
        simp [hTab, hFeed] at hControl ⊢
        omega
    have hBackslash : ¬ (style.escapes = true ∧ c = '\\') := fun h => hEscape h.1 h.2
    simp [plainNext, hMark, hBackslash, hFeed, hReturn, hPrintable]

theorem lt_of_hasRun_eq_false {size : Nat} (h : hasRun c size seen text = false) : seen < size := by
  cases text <;> simp [hasRun] at h <;> omega

/-- A text without what a style without escapes cannot hold is read as it stands. -/
theorem read?_literal (hEscapes : style.escapes = false)
    (hControl : ∀ c ∈ text, isControl c = false) (hLine : '\n' ∈ text → style.multiline = true)
    (hRun : hasRun style.mark style.delimiter.length seen text = false)
    (hRest : style.multiline = true → rest.head? ≠ some style.mark) :
    style.read? (afterMarks seen) (text ++ (style.delimiter ++ rest)) =
      some (List.replicate seen style.mark ++ text, rest) := by
  induction text generalizing seen with
  | nil => simpa using read?_delimiter (lt_of_hasRun_eq_false hRun) hRest
  | cons c text ih =>
    have hSeen : seen < style.delimiter.length := lt_of_hasRun_eq_false hRun
    have ih := fun seen => @ih seen (fun d hd => hControl d (List.mem_cons_of_mem _ hd))
      (fun h => hLine (List.mem_cons_of_mem _ h))
    simp only [hasRun, Bool.or_eq_false_iff] at hRun
    rw [List.cons_append, ← List.singleton_append]
    by_cases hc : c = style.mark
    · subst hc
      rw [if_pos rfl] at hRun
      have hNext : seen + 1 < style.delimiter.length := lt_of_hasRun_eq_false hRun.2
      have hMultiline : style.multiline = true := by
        cases h : style.multiline with
        | true => rfl
        | false => simp [delimiter, h] at hNext
      have hHere := (reads_mark (.inl hMultiline)).read?_append (ih (seen + 1) hRun.2)
      simpa [List.replicate_succ'] using hHere
    · rw [if_neg hc] at hRun
      have hPlain : style.plainNext c = some ([c], .plain) :=
        plainNext_of_plain hc (by simp [hEscapes]) (hControl c List.mem_cons_self)
          (fun h => hLine (by simp [h]))
      have hHere := (reads_of_plainNext hSeen hc hPlain).read?_append (ih 0 hRun.2)
      simpa using hHere

/-! ### Texts with escapes -/

theorem hexDigit?_hexDigit {n : Nat} (h : n < 16) : hexDigit? (hexDigit n) = some n := by
  have hAll : ∀ n : Fin 16, hexDigit? (hexDigit n) = some n.val := by decide
  exact hAll ⟨n, h⟩

theorem charOfCode?_toNat (c : Char) : charOfCode? c.toNat = some c := by
  rw [charOfCode?, if_pos, Char.ofNat_toNat]
  exact c.valid

/-- An escape by the code of its character, from after the backslash on. -/
theorem reads_code (hCode : c.toNat < 256) :
    style.Reads .escape ['u', '0', '0', hexDigit (c.toNat / 16), hexDigit (c.toNat % 16)] [c]
      .plain := by
  have hZero : hexDigit? '0' = some 0 := by decide
  have hHigh : hexDigit? (hexDigit (c.toNat / 16)) = some (c.toNat / 16) :=
    hexDigit?_hexDigit (by omega)
  have hLow : hexDigit? (hexDigit (c.toNat % 16)) = some (c.toNat % 16) :=
    hexDigit?_hexDigit (by omega)
  have hSum : c.toNat / 16 * 16 + c.toNat % 16 = c.toNat := by omega
  have hu : style.Reads .escape ['u'] [] (.code 4 0) :=
    Reads.of_next rfl (by simp [next, escapedChar?])
  have h4 : style.Reads (.code 4 0) ['0'] [] (.code 3 0) :=
    Reads.of_next rfl (by simp [next, hZero])
  have h3 : style.Reads (.code 3 0) ['0'] [] (.code 2 0) :=
    Reads.of_next rfl (by simp [next, hZero])
  have h2 : style.Reads (.code 2 0) [hexDigit (c.toNat / 16)] [] (.code 1 (c.toNat / 16)) :=
    Reads.of_next rfl (by simp [next, hHigh])
  have h1 : style.Reads (.code 1 (c.toNat / 16)) [hexDigit (c.toNat % 16)] [c] .plain :=
    Reads.of_next rfl (by simp [next, hLow, hSum, charOfCode?_toNat])
  exact hu.trans (h4.trans (h3.trans (h2.trans h1)))

/-- Every escape starts with a backslash, and what follows it stands for the escaped character. -/
theorem reads_of_escape? (style : QuoteStyle) {multiline : Bool} {escape : List Char}
    (h : escape? multiline c = some escape) :
    ∃ code, escape = '\\' :: code ∧ style.Reads .escape code [c] .plain := by
  have hLetter (letter d : Char) (hLetter : escapedChar? letter = some d) :
      style.Reads .escape [letter] [d] .plain :=
    Reads.of_next rfl (by simp [next, hLetter])
  simp only [escape?] at h
  repeat' split at h
  all_goals cases h
  -- a letter stands for its character at once, and only a code goes through more states
  case _ hc => exact ⟨_, rfl, hc ▸ hLetter 'b' _ rfl⟩
  case _ hc => exact ⟨_, rfl, hc ▸ hLetter 't' _ rfl⟩
  case _ hc _ => exact ⟨_, rfl, hc ▸ hLetter 'n' _ rfl⟩
  case _ hc => exact ⟨_, rfl, hc ▸ hLetter 'f' _ rfl⟩
  case _ hc => exact ⟨_, rfl, hc ▸ hLetter 'r' _ rfl⟩
  case _ hc => exact ⟨_, rfl, hc ▸ hLetter '\\' _ rfl⟩
  case _ hControl =>
    refine ⟨_, rfl, reads_code ?_⟩
    simp [isControl] at hControl
    omega

/-- A character that has no escape is no backslash, and a control character only when it is the line
feed of a string of several lines. -/
theorem of_escape?_eq_none {multiline : Bool} (h : escape? multiline c = none) :
    c ≠ '\\' ∧ isControl c = false ∧ (c = '\n' → multiline = true) := by
  simp only [escape?] at h
  repeat' split at h
  all_goals cases h
  case _ hc hMultiline =>
    subst hc
    simp [isControl, hMultiline]
  case _ hFeed _ _ hBackslash hControl =>
    exact ⟨hBackslash, by simpa using hControl, by simp [hFeed]⟩

/-- A text with its escapes is read as the text. -/
theorem read?_escapeFrom (text : List Char) (hMark : style.mark = '"')
    (hSeen : seen < style.delimiter.length)
    (hRest : style.multiline = true → rest.head? ≠ some style.mark) :
    style.read? (afterMarks seen)
        (escapeFrom style.multiline seen text ++ (style.delimiter ++ rest)) =
      some (List.replicate seen style.mark ++ text, rest) := by
  have hEscapes : style.escapes = true := by simp [escapes, hMark]
  have hZero : 0 < style.delimiter.length := by omega
  have hBackslash : style.plainNext '\\' = some ([], .escape) := by
    simp [plainNext, hMark, hEscapes]
  induction text generalizing seen with
  | nil => simpa [escapeFrom] using read?_delimiter hSeen hRest
  | cons c text ih =>
    have ihPlain := ih hZero
    -- an escape gives out the marks before it at its backslash
    have hLead : style.Reads (afterMarks seen) ['\\'] (List.replicate seen style.mark ++ [])
        .escape :=
      reads_of_plainNext hSeen (by simp [hMark]) hBackslash
    rw [escapeFrom]
    split
    · rename_i hc
      subst hc
      split
      · rename_i hFew
        have hNext : seen + 1 < style.delimiter.length := by
          simp [delimiter, hFew.1]
          omega
        have hHere := (reads_mark (.inl hFew.1)).read?_append (ih hNext)
        simpa [List.replicate_succ', hMark] using hHere
      · have hQuote : style.Reads .escape ['"'] ['"'] .plain := Reads.of_next rfl rfl
        simpa using (hLead.trans hQuote).read?_append ihPlain
    · rename_i hc
      cases hEscape : escape? style.multiline c with
      | none =>
        obtain ⟨hNot, hControl, hLine⟩ := of_escape?_eq_none hEscape
        have hNotMark : c ≠ style.mark := hMark ▸ hc
        have hPlain := plainNext_of_plain hNotMark (fun _ => hNot) hControl hLine
        simpa using (reads_of_plainNext hSeen hNotMark hPlain).read?_append ihPlain
      | some escape =>
        obtain ⟨code, rfl, hCode⟩ := reads_of_escape? style hEscape
        simpa using (hLead.trans hCode).read?_append ihPlain

/-! ### Whole strings -/

/-- A style holds a text: any text where backslashes escape, else only one that suits the style. -/
def Holds (style : QuoteStyle) (text : List Char) : Prop :=
  style.mark = '"' ∨ style.mark = '\'' ∧ style.suits text = true

/-- What stands for a text between the marks. -/
def body (style : QuoteStyle) (text : List Char) : List Char :=
  if style.escapes then escapeFrom style.multiline 0 text else text

theorem read?_body (rest : List Char) (h : style.Holds text)
    (hRest : style.multiline = true → rest.head? ≠ some style.mark) :
    style.read? .plain (style.body text ++ (style.delimiter ++ rest)) = some (text, rest) := by
  rcases h with hMark | ⟨hMark, hSuits⟩
  · have hPositive : 0 < style.delimiter.length := by
      simp only [delimiter, List.length_replicate]
      split <;> omega
    have hEscapes : style.escapes = true := by simp [escapes, hMark]
    simpa [body, hEscapes] using read?_escapeFrom text hMark hPositive hRest
  · have hEscapes : style.escapes = false := by simp [escapes, hMark]
    simp only [suits, hEscapes, Bool.and_eq_true, Bool.not_eq_true', Bool.or_eq_true,
      List.any_eq_false, List.contains_eq_mem, decide_eq_false_iff_not, Bool.not_eq_true] at hSuits
    obtain ⟨⟨⟨hControl, -⟩, hRun⟩, hLine⟩ := hSuits
    have hRun : hasRun style.mark style.delimiter.length 0 text = false := by
      simpa [delimiter] using hRun
    simpa [body, hEscapes] using read?_literal hEscapes hControl
      (fun h => hLine.resolve_right fun hNot => hNot h) hRun hRest

/-- What stands for a text starts with an escape or with a character of the text, which is no
carriage return, and a mark only in a string of several lines. -/
theorem of_head?_body (h : style.Holds text) (hHead : (style.body text).head? = some c) :
    c = '\\' ∨ c ∈ text ∧ c ≠ '\r' ∧ (c = style.mark → style.multiline = true) := by
  cases text with
  | nil => simp [body, escapeFrom] at hHead
  | cons d text =>
    rcases h with hMark | ⟨hMark, hSuits⟩
    · have hEscapes : style.escapes = true := by simp [escapes, hMark]
      rw [body, if_pos hEscapes, escapeFrom] at hHead
      split at hHead
      · rename_i hd
        split at hHead
        · rename_i hFew
          have hc : d = c := by simpa [hd] using hHead
          exact .inr ⟨by simp [hc], by simp [← hc, hd], fun _ => hFew.1⟩
        · exact .inl (by simpa using hHead.symm)
      · rename_i hd
        cases hEscape : escape? style.multiline d with
        | none =>
          have hc : d = c := by simpa [hEscape] using hHead
          obtain ⟨-, hControl, -⟩ := of_escape?_eq_none hEscape
          refine .inr ⟨by simp [hc], ?_, fun h => absurd (hc.trans (h.trans hMark)) hd⟩
          rintro rfl
          simp [hc, isControl] at hControl
        | some escape =>
          obtain ⟨code, rfl, -⟩ := reads_of_escape? style hEscape
          exact .inl (by simpa [hEscape] using hHead.symm)
    · have hEscapes : style.escapes = false := by simp [escapes, hMark]
      have hc : d = c := by simpa [body, hEscapes] using hHead
      subst hc
      simp only [suits, List.any_cons, Bool.and_eq_true, Bool.not_eq_true', Bool.or_eq_false_iff]
        at hSuits
      obtain ⟨⟨⟨⟨hControl, -⟩, -⟩, hRun⟩, -⟩ := hSuits
      refine .inr ⟨List.mem_cons_self, ?_, fun hd => ?_⟩
      · rintro rfl
        simp [isControl] at hControl
      · rw [hasRun, if_pos hd, Bool.or_eq_false_iff] at hRun
        have hSize := lt_of_hasRun_eq_false hRun.2
        cases hMultiline : style.multiline with
        | true => rfl
        | false => simp [hMultiline] at hSize

theorem Holds.mark (h : style.Holds text) : style.mark = '"' ∨ style.mark = '\'' :=
  h.imp_right And.left

/-- Between single marks no text starts with one. -/
theorem head?_body_ne_mark (h : style.Holds text) (hSingle : style.multiline = false) :
    (style.body text).head? ≠ some style.mark := by
  intro hHead
  rcases of_head?_body h hHead with hMark | ⟨-, -, hMultiline⟩
  · rcases h.mark with h | h <;> simp [h] at hMark
  · simp [hSingle] at hMultiline

/-- A text without line feeds starts with no line end where it is written. -/
theorem afterLineEnd?_body (h : style.Holds text) (hLine : '\n' ∉ text) :
    afterLineEnd? (style.body text ++ (style.delimiter ++ rest)) = none := by
  cases hBody : style.body text with
  | nil =>
    have hDelimiter : style.delimiter = style.mark :: style.delimiter.tail := by
      simp only [delimiter]
      split <;> rfl
    rw [List.nil_append, hDelimiter, List.cons_append]
    apply afterLineEnd?_cons <;> rcases h.mark with h | h <;> simp [h]
  | cons c more =>
    rcases of_head?_body h (by rw [hBody, List.head?_cons]) with rfl | ⟨hMem, hReturn, -⟩
    · exact afterLineEnd?_cons (by decide) (by decide)
    · exact afterLineEnd?_cons (fun hc => hLine (hc ▸ hMem)) hReturn

theorem holds_stringStyle (text : List Char) : (stringStyle text).Holds text := by
  rw [stringStyle]
  cases hFind : quoteStyles.find? fun style => style.suits text with
  | none => exact .inl rfl
  | some style =>
    have hMem : style ∈ quoteStyles := List.mem_of_find?_eq_some hFind
    have hSuits : style.suits text = true := by simpa using List.find?_some hFind
    have hMark : style.mark = '"' ∨ style.mark = '\'' := by
      have hAll : ∀ style ∈ quoteStyles, style.mark = '"' ∨ style.mark = '\'' := by decide
      exact hAll style hMem
    exact hMark.imp_right fun hMark => ⟨hMark, hSuits⟩

theorem holds_keyStyle (text : List Char) :
    (keyStyle text).Holds text ∧ (keyStyle text).multiline = false := by
  rw [keyStyle]
  cases hFind : (quoteStyles.take 2).find? fun style => style.suits text with
  | none => exact ⟨.inl rfl, rfl⟩
  | some style =>
    have hMem : style ∈ quoteStyles.take 2 := List.mem_of_find?_eq_some hFind
    have hSuits : style.suits text = true := by simpa using List.find?_some hFind
    have hAll : ∀ style ∈ quoteStyles.take 2,
        (style.mark = '"' ∨ style.mark = '\'') ∧ style.multiline = false := by decide
    obtain ⟨hMark, hSingle⟩ := hAll style hMem
    exact ⟨hMark.imp_right fun hMark => ⟨hMark, hSuits⟩, hSingle⟩

theorem exists_write_eq_cons (style : QuoteStyle) (text : List Char) :
    ∃ tail, style.write text = style.mark :: tail := by
  simp only [write, delimiter]
  split <;> exact ⟨_, rfl⟩

theorem write_of_single (hSingle : style.multiline = false) (text : List Char) :
    style.write text = style.mark :: (style.body text ++ [style.mark]) := by
  simp [write, body, delimiter, hSingle]

/-- A text between single marks is read back as a string of one line. -/
theorem readLineString?_write (h : style.Holds text) (hSingle : style.multiline = false)
    (rest : List Char) : readLineString? (style.write text ++ rest) = some (text, rest) := by
  have hRead := read?_body rest h (by simp [hSingle])
  have hDelimiter : style.delimiter = [style.mark] := by simp [delimiter, hSingle]
  have hStyle : (⟨style.mark, false⟩ : QuoteStyle) = style := by rw [← hSingle]
  rw [write_of_single hSingle, List.cons_append, readLineString?, if_pos h.mark, hStyle,
    List.append_assoc, ← hDelimiter]
  exact hRead

end QuoteStyle

open QuoteStyle

/-- A text is a string of one line unless it starts with three marks. -/
theorem readString?_eq_readLineString? {text : List Char}
    (h : ∀ mark more, text ≠ mark :: mark :: mark :: more) :
    readString? text = readLineString? text := by
  rw [readString?.eq_def]
  split
  · rename_i a b c more
    split
    · rename_i hMarks
      obtain ⟨-, rfl, rfl⟩ := hMarks
      exact absurd rfl (h a more)
    · rfl
  · rfl

/-- A string as written is read back, whatever follows it but a quote. -/
theorem readString?_writeString (text : String) {rest : List Char}
    (hRest : ∀ mark ∈ ['"', '\''], rest.head? ≠ some mark) :
    readString? (writeString text ++ rest) = some (text.toList, rest) := by
  rw [writeString]
  generalize hStyle : stringStyle text.toList = style
  have hHolds : style.Holds text.toList := hStyle ▸ holds_stringStyle text.toList
  have hRest : rest.head? ≠ some style.mark := hRest style.mark (by simpa using hHolds.mark)
  have hWrite : style.write text.toList ++ rest = style.delimiter ++
      ((if style.multiline ∧ '\n' ∈ text.toList then ['\n'] else []) ++
        (style.body text.toList ++ (style.delimiter ++ rest))) := by
    simp [write, body]
  cases hMultiline : style.multiline with
  | false =>
    rw [readString?_eq_readLineString?, readLineString?_write hHolds hMultiline]
    intro mark more hText
    have hBody := head?_body_ne_mark hHolds hMultiline
    simp only [hWrite, delimiter, hMultiline, Bool.false_eq_true, if_false, false_and,
      List.replicate_one, List.nil_append, List.singleton_append, List.cons.injEq] at hText
    obtain ⟨rfl, hText⟩ := hText
    cases h : style.body text.toList with
    | nil =>
      rw [h, List.nil_append, List.cons.injEq] at hText
      exact hRest (by rw [hText.2, List.head?_cons])
    | cons c tail =>
      rw [h, List.cons_append, List.cons.injEq] at hText
      exact hBody (by rw [h, List.head?_cons, hText.1])
  | true =>
    have hLead : (afterLineEnd? ((if '\n' ∈ text.toList then ['\n'] else []) ++
          (style.body text.toList ++ (style.delimiter ++ rest)))).getD
          ((if '\n' ∈ text.toList then ['\n'] else []) ++
            (style.body text.toList ++ (style.delimiter ++ rest))) =
        style.body text.toList ++ (style.delimiter ++ rest) := by
      split
      · rfl
      · rename_i hLine
        rw [List.nil_append, afterLineEnd?_body hHolds hLine, Option.getD_none]
    have hDelimiter (text : List Char) :
        style.delimiter ++ text = style.mark :: style.mark :: style.mark :: text := by
      simp [delimiter, hMultiline, List.replicate_succ]
    have hStyle : (⟨style.mark, true⟩ : QuoteStyle) = style := by rw [← hMultiline]
    simp only [hMultiline, true_and] at hWrite
    rw [hWrite, hDelimiter, readString?, if_pos ⟨hHolds.mark, rfl, rfl⟩, hLead, hStyle]
    exact read?_body rest hHolds fun _ => hRest

end PresetCompiler.Toml

import PresetCompiler.Proofs.Block.Category
import PresetCompiler.Proofs.Dictionary

/-! The parameters of a block, read back from the flag that they are written with. The flag may
stand anywhere between blanks in a block, as long as no flag of the same name stands before it, and
of several parameters with one name the last counts (`readSyndata_parametersText`). -/

namespace PresetCompiler

namespace Text

/-! ### Where a flag stands -/

/-- A text after which a flag may begin: nothing, or something up to a blank. -/
def EndsFree (front : List Char) : Prop :=
  ∀ c ∈ front.getLast?, isBlank c = true

theorem endsFree_nil : EndsFree [] := by simp [EndsFree]

theorem endsFree_cons {c : Char} {front : List Char} :
    EndsFree (c :: front) ↔ (front = [] → isBlank c = true) ∧ EndsFree front := by
  cases front <;> simp [EndsFree]

/-- A text in which a flag is written, with a value: its lead stands at the start or after a blank,
and no blank follows. -/
def WritesFlag (lead text : List Char) : Prop :=
  ∃ front c back, text = front ++ (lead ++ c :: back) ∧ EndsFree front ∧ isBlank c = false

theorem WritesFlag.append {lead text : List Char} (h : WritesFlag lead text) (more : List Char) :
    WritesFlag lead (text ++ more) := by
  obtain ⟨front, c, back, rfl, hFront, hc⟩ := h
  exact ⟨front, c, back ++ more, by simp, hFront, hc⟩

theorem value?_eq_none_iff {text : List Char} :
    value? text = none ↔ ∀ c ∈ text.head?, isBlank c = true := by
  cases text with
  | nil => simp [value?]
  | cons c rest =>
    cases hc : isBlank c with
    | true => simp [value?_cons_blank hc, hc]
    | false =>
      have hWord : firstWord (c :: rest) ≠ [] := by
        rw [firstWord, List.takeWhile_cons_of_pos (by simp [hc])]
        exact List.cons_ne_nil c _
      rw [value?, bareValue?_eq, if_neg hWord]
      split <;> simp [hc]

section Lead

variable {lead : List Char}

theorem findValue?_eq_none_cons {free : Bool} {c : Char} {text : List Char} :
    findValue? lead free (c :: text) = none ↔
      (free = true → (after? lead (c :: text)).bind value? = none) ∧
        findValue? lead (isBlank c) text = none := by
  rw [findValue?]
  cases free with
  | false => simp
  | true => cases (after? lead (c :: text)).bind value? <;> simp

theorem findValue?_cons_of_none {free : Bool} {c : Char} {text : List Char}
    {result : Option (List Char)}
    (hHere : free = true → (after? lead (c :: text)).bind value? = none)
    (hLater : findValue? lead (isBlank c) text = result) :
    findValue? lead free (c :: text) = result := by
  rw [findValue?]
  cases free with
  | false => exact hLater
  | true =>
    rw [if_pos rfl, hHere rfl]
    exact hLater

theorem bind_value?_eq_none_iff {text : List Char} :
    (after? lead text).bind value? = none ↔
      ∀ c back, text = lead ++ c :: back → isBlank c = true := by
  rw [Option.bind_eq_none_iff]
  constructor
  · intro h c back hText
    exact value?_eq_none_iff.mp (h _ (after?_eq_some_iff.mpr hText)) c rfl
  · intro h rest hRest
    refine value?_eq_none_iff.mpr fun c hc => ?_
    obtain ⟨back, rfl⟩ := List.head?_eq_some_iff.mp hc
    exact h c back (after?_eq_some_iff.mp hRest)

theorem findValue?_eq_none_iff {free : Bool} {text : List Char} :
    findValue? lead free text = none ↔
      ∀ front c back, text = front ++ (lead ++ c :: back) → (front = [] → free = true) →
        EndsFree front → isBlank c = true := by
  induction text generalizing free with
  | nil => simp [findValue?]
  | cons d text ih =>
    rw [findValue?_eq_none_cons, ih, bind_value?_eq_none_iff]
    constructor
    · rintro ⟨hHere, hLater⟩ front c back hText hFree hFront
      cases front with
      | nil => exact hHere (hFree rfl) c back hText
      | cons e front =>
        rw [List.cons_append, List.cons.injEq] at hText
        obtain ⟨rfl, hText⟩ := hText
        obtain ⟨hBlank, hFront⟩ := endsFree_cons.mp hFront
        exact hLater front c back hText hBlank hFront
    · refine fun h => ⟨fun hFree c back hText => ?_, fun front c back hText hBlank hFront => ?_⟩
      · exact h [] c back hText (fun _ => hFree) endsFree_nil
      · exact h (d :: front) c back (congrArg (d :: ·) hText) (fun hNil => by cases hNil)
          (endsFree_cons.mpr ⟨hBlank, hFront⟩)

/-- A search finds nothing exactly when no flag is written. -/
theorem not_writesFlag_iff {text : List Char} :
    ¬WritesFlag lead text ↔ findValue? lead true text = none := by
  rw [findValue?_eq_none_iff]
  constructor
  · intro h front c back hText _ hFront
    by_contra hc
    exact h ⟨front, c, back, hText, hFront, Bool.eq_false_iff.mpr hc⟩
  · rintro h ⟨front, c, back, hText, hFront, hc⟩
    have hBlank := h front c back hText (fun _ => rfl) hFront
    rw [hc] at hBlank
    contradiction

variable (hLead : IsLead lead)
include hLead

/-- A search that finds nothing in a text goes on behind it, from the next blank. -/
theorem findValue?_append_gap {free : Bool} {text rest : List Char}
    (h : findValue? lead free text = none) (hRest : ∀ c ∈ rest.head?, isBlank c = true) :
    findValue? lead free (text ++ rest) = findValue? lead true rest := by
  induction text generalizing free with
  | nil => rw [List.nil_append, findValue?_gap hLead hRest, findValue?_trimStart hLead]
  | cons c text ih =>
    obtain ⟨hHere, hLater⟩ := findValue?_eq_none_cons.mp h
    rw [List.cons_append]
    refine findValue?_cons_of_none (fun hFree => ?_) (ih hLater)
    rw [← List.cons_append, after?_append hLead.noBlank hRest]
    have hNone := hHere hFree
    cases hAfter : after? lead (c :: text) with
    | none => rfl
    | some back =>
      rw [hAfter, Option.bind_some, value?_eq_none_iff] at hNone
      rw [Option.map_some, Option.bind_some, value?_eq_none_iff]
      cases back with
      | nil => exact hRest
      | cons d back => exact hNone

/-- Behind a text in which the flag is not written, the first flag of the rest counts. -/
theorem findValue?_append {front : List Char} (hFront : EndsFree front)
    (hOther : ¬WritesFlag lead front) (rest : List Char) :
    findValue? lead true (front ++ rest) = findValue? lead true rest := by
  rcases List.eq_nil_or_concat front with rfl | ⟨text, last, rfl⟩
  · rfl
  · have hLast : isBlank last = true := hFront last (by simp)
    rw [List.concat_eq_append] at hOther ⊢
    have hText := not_writesFlag_iff.mp fun hWrites => hOther (WritesFlag.append hWrites [last])
    rw [List.append_assoc, List.singleton_append,
      findValue?_append_gap hLead hText (by simp [hLast]), findValue?_cons_blank hLead hLast]

end Lead

end Text

open Text

/-! ### Parameters -/

/-- A parameter as written. -/
def parameterText (parameter : String × String) : String :=
  parameter.1 ++ ":" ++ parameter.2

/-- Parameters as written in one value. -/
def parametersText (parameters : List (String × String)) : String :=
  ",".intercalate (parameters.map parameterText)

/-- What a parameter may be: without commas, quotes and blanks, and with a name without colons. -/
@[mk_iff] structure IsPlainParameter (parameter : String × String) : Prop where
  name_ne : parameter.1 ≠ ""
  plain : IsPlainText parameter.1.toList ∧ IsPlainText parameter.2.toList
  noComma : ',' ∉ parameter.1.toList ∧ ',' ∉ parameter.2.toList
  noColon : ':' ∉ parameter.1.toList

variable {parameter : String × String} {parameters : List (String × String)}

theorem toList_parameterText (parameter : String × String) :
    (parameterText parameter).toList = parameter.1.toList ++ ':' :: parameter.2.toList := by
  simp [parameterText]

theorem toList_parametersText (parameters : List (String × String)) :
    (parametersText parameters).toList = List.intercalate [',']
      (parameters.map fun parameter => (parameterText parameter).toList) := by
  rw [parametersText, String.toList_intercalate, List.map_map]
  rfl

theorem trim_of_noBlank {text : List Char} (h : ∀ c ∈ text, isBlank c = false) : trim text = text :=
  trim_eq_self_iff.mpr ⟨fun c hc => h c (List.mem_of_mem_head? hc),
    fun c hc => h c (List.mem_of_mem_getLast? hc)⟩

namespace IsPlainParameter

variable (h : IsPlainParameter parameter)
include h

theorem readParameter_parameterText :
    readParameter (parameterText parameter).toList = parameter := by
  have hSplit : splitOnce ':' (parameterText parameter).toList =
      some (parameter.1.toList, parameter.2.toList) :=
    splitOnce_eq_some_iff.mpr ⟨toList_parameterText parameter, h.noColon⟩
  have hName := trim_of_noBlank fun c hc => (h.plain.1 c hc).1
  have hValue := trim_of_noBlank fun c hc => (h.plain.2 c hc).1
  rw [readParameter, hSplit]
  simp only [hName, hValue, String.ofList_toList]

theorem isPlainText : IsPlainText (parameterText parameter).toList := by
  intro c hc
  rw [toList_parameterText, List.mem_append, List.mem_cons] at hc
  rcases hc with hc | rfl | hc
  · exact h.plain.1 c hc
  · decide
  · exact h.plain.2 c hc

theorem not_mem_comma : ',' ∉ (parameterText parameter).toList := by
  rw [toList_parameterText, List.mem_append, List.mem_cons]
  rintro (hComma | hComma | hComma)
  · exact h.noComma.1 hComma
  · contradiction
  · exact h.noComma.2 hComma

end IsPlainParameter

section Parameters

variable (h : ∀ parameter ∈ parameters, IsPlainParameter parameter)
include h

theorem isPlainText_parametersText : IsPlainText (parametersText parameters).toList := by
  intro c hc
  rw [toList_parametersText] at hc
  rcases mem_intercalate hc with hComma | ⟨text, hText, hc⟩
  · obtain rfl := List.mem_singleton.mp hComma
    decide
  · obtain ⟨parameter, hParameter, rfl⟩ := List.mem_map.mp hText
    exact (h parameter hParameter).isPlainText c hc

theorem pieces_parametersText (hNil : parameters ≠ []) :
    pieces (· == ',') (parametersText parameters).toList =
      parameters.map fun parameter => (parameterText parameter).toList := by
  rw [toList_parametersText]
  refine pieces_intercalate (by decide) (fun run hRun c hc => ?_) (by simpa using hNil)
  obtain ⟨parameter, hParameter, rfl⟩ := List.mem_map.mp hRun
  refine beq_eq_false_iff_ne.mpr ?_
  rintro rfl
  exact (h parameter hParameter).not_mem_comma hc

theorem parametersText_ne_empty (hNil : parameters ≠ []) : parametersText parameters ≠ "" := by
  intro hEmpty
  have hPieces := pieces_parametersText h hNil
  obtain ⟨parameter, rest, rfl⟩ := List.exists_cons_of_ne_nil hNil
  simp [hEmpty, pieces, toList_parameterText] at hPieces

/-- The parameters of a flag are those that its value was put together from. -/
theorem readSyndata_of_flagValue? (hNil : parameters ≠ []) {args : List Char}
    (hValue : flagValue? "syndata" args = some (parametersText parameters).toList) :
    readSyndata args = some (.ofList parameters) := by
  have hTrim : (parameters.map fun parameter => (parameterText parameter).toList).map trim =
      parameters.map fun parameter => (parameterText parameter).toList := by
    rw [List.map_map]
    exact List.map_congr_left fun parameter hParameter =>
      trim_of_noBlank fun c hc => ((h parameter hParameter).isPlainText c hc).1
  have hRead :
      (parameters.map fun parameter => (parameterText parameter).toList).map readParameter =
        parameters := by
    rw [List.map_map]
    exact (List.map_congr_left fun parameter hParameter =>
      (h parameter hParameter).readParameter_parameterText).trans (List.map_id parameters)
  have hKept : ∀ text ∈ parameters.map fun parameter => (parameterText parameter).toList,
      decide (text ≠ []) = true := by
    intro text hText
    obtain ⟨parameter, -, rfl⟩ := List.mem_map.mp hText
    simp [toList_parameterText]
  rw [readSyndata, hValue, Option.map_some, pieces_parametersText h hNil]
  simp only [hTrim, List.filter_eq_self.mpr hKept, hRead]

end Parameters

/-- The parameters of a flag are read back as they were written, bare or in quotes, wherever the
flag stands as the first of its name. Of several with one name the last counts, and otherwise their
order does not matter. -/
theorem readSyndata_parametersText {written : String} {before after : List Char}
    (hNil : parameters ≠ []) (hPlain : ∀ parameter ∈ parameters, IsPlainParameter parameter)
    (hWritten : written ∈ writtenForms (parametersText parameters)) (hBefore : EndsFree before)
    (hOther : ¬WritesFlag (flagLead "syndata") before)
    (hAfter : ∀ c ∈ after.head?, isBlank c = true) :
    ∃ dictionary,
      readSyndata (before ++ (flagLead "syndata" ++ (written.toList ++ after))) = some dictionary ∧
      (∀ name value, dictionary.get? name = some value ↔
        ∃ front back, parameters = front ++ (name, value) :: back ∧ name ∉ back.map Prod.fst) ∧
      ∀ other : Dictionary String, parameters.Perm other.entries → dictionary = other := by
  have hLead : IsLead (flagLead "syndata") := isLead_flagLead (noBlank_of_all (by decide))
  have hValue := value?_written_append hWritten (isPlainText_parametersText hPlain)
    (parametersText_ne_empty hPlain hNil) hAfter
  refine ⟨.ofList parameters, readSyndata_of_flagValue? hPlain hNil ?value,
    fun name value => Dictionary.get?_ofList_eq_some_iff, fun other hPerm => ?perm⟩
  case value =>
    rw [flagValue?_eq, findValue?_append hLead hBefore hOther]
    exact flagValue?_flagLead hValue
  case perm => exact Dictionary.ofList_of_perm hPerm

/-- A name that is given twice, a value with colons and one without anything, in quotes behind the
name of the flag within a word. -/
theorem readSyndata_parametersText_twice :
    let parameters := [("ttl", "4"), ("blob", "a:b"), ("raw", ""), ("ttl", "7")]
    let written := "\"" ++ parametersText parameters ++ "\""
    let args := "--blob=x--syndata=y:1\t--syndata=" ++ written ++ "\n--dpi-desync=fake"
    ∃ dictionary, readSyndata args.toList = some dictionary ∧ dictionary.get? "ttl" = some "7" ∧
      dictionary.get? "blob" = some "a:b" ∧ dictionary.get? "raw" = some "" := by
  intro parameters written args
  have hPlain : ∀ parameter ∈ parameters, IsPlainParameter parameter := by
    simp only [parameters, List.forall_mem_cons, isPlainParameter_iff]
    decide
  have hBefore : EndsFree "--blob=x--syndata=y:1\t".toList :=
    (Option.all_eq_true _ _).mp (by decide)
  have hWritten : written ∈ writtenForms (parametersText parameters) := by
    simp [written, writtenForms]
  have hAfter : ∀ c ∈ "\n--dpi-desync=fake".toList.head?, isBlank c = true :=
    (Option.all_eq_true _ _).mp (by decide)
  obtain ⟨dictionary, hRead, hLast, -⟩ := readSyndata_parametersText (by decide) hPlain hWritten
    hBefore (not_writesFlag_iff.mpr (by decide)) hAfter
  have hArgs : readSyndata args.toList = some dictionary :=
    (congrArg readSyndata (by decide)).trans hRead
  refine ⟨dictionary, hArgs, (hLast "ttl" "7").mpr ?_, (hLast "blob" "a:b").mpr ?_,
    (hLast "raw" "").mpr ?_⟩
  · exact ⟨[("ttl", "4"), ("blob", "a:b"), ("raw", "")], [], rfl, by decide⟩
  · exact ⟨[("ttl", "4")], [("raw", ""), ("ttl", "7")], rfl, by decide⟩
  · exact ⟨[("ttl", "4"), ("blob", "a:b")], [("ttl", "7")], rfl, by decide⟩

end PresetCompiler

import Mathlib.Data.List.Forall2
import Mathlib.Logic.Relation
import PresetCompiler.Proofs.Text.Lines
import PresetCompiler.Proofs.Text.LowerCase
import PresetCompiler.Strategy.Matching

/-! The strategy that is found for an argument text is the first of its category with the same
words. Words are compared in lower case, one by one (`normalizeArgs_eq_iff`), so that neither the
blanks between them nor the case of ASCII letters counts, and a strategy that cannot be looked up is
as good as absent (`findStrategy?_eq`). -/

namespace PresetCompiler

open Text

namespace Text

/-! ### Words in lower case -/

/-- The words of a text, each in lower case. -/
def lowerWords (text : List Char) : List (List Char) :=
  (words text).map lower

/-- A word, as a text has them. -/
structure IsWord (word : List Char) : Prop where
  ne_nil : word ≠ []
  noBlank : ∀ c ∈ word, isBlank c = false

theorem isWord_of_mem_words {text word : List Char} (h : word ∈ words text) : IsWord word := by
  obtain ⟨hPiece, hNil⟩ := List.mem_filter.mp h
  exact ⟨by simpa using hNil, fun c hc => not_isCut_of_mem_pieces hPiece hc⟩

theorem isWord_of_mem_lowerWords {text word : List Char} (h : word ∈ lowerWords text) :
    IsWord word := by
  obtain ⟨plain, hPlain, rfl⟩ := List.mem_map.mp h
  have hWord := isWord_of_mem_words hPlain
  exact ⟨fun hNil => hWord.ne_nil (lower_eq_nil_iff.mp hNil), noBlank_lower hWord.noBlank⟩

/-- Words are read back from the text that has them between spaces. -/
theorem words_intercalate {ws : List (List Char)} (h : ∀ word ∈ ws, IsWord word) :
    words (List.intercalate [' '] ws) = ws := by
  by_cases hNil : ws = []
  · rw [hNil]
    rfl
  · rw [words, pieces_intercalate (by decide) (fun word hWord => (h word hWord).noBlank) hNil,
      List.filter_eq_self]
    exact fun word hWord => decide_eq_true (h word hWord).ne_nil

theorem words_eq_nil_iff {text : List Char} : words text = [] ↔ ∀ c ∈ text, isBlank c = true := by
  induction text with
  | nil => simp [words, pieces]
  | cons c text ih =>
    cases hc : isBlank c with
    | true => simp [words_cons_blank hc, ih, hc]
    | false =>
      have hFirst : firstWord (c :: text) = c :: firstWord text :=
        List.takeWhile_cons_of_pos (by simp [hc])
      simp [words_eq (c :: text), hFirst, hc]

theorem lower_intercalate_words (text : List Char) :
    lower (List.intercalate [' '] (words text)) = List.intercalate [' '] (lowerWords text) :=
  lower_intercalate (words text)

/-! ### Other spellings -/

/-- One change of a text that leaves its words what they are, ASCII case aside: blanks between two
words may become others, blanks may come to stand at either end, and an ASCII letter may change its
case. -/
inductive Respelling : List Char → List Char → Prop
  | between (front : List Char) {gap gap' : List Char} (back : List Char)
      (hGap : ∀ c ∈ gap, isBlank c = true) (hGap' : ∀ c ∈ gap', isBlank c = true)
      (hSome : gap ≠ []) (hSome' : gap' ≠ []) :
      Respelling (front ++ gap ++ back) (front ++ gap' ++ back)
  | start {gap : List Char} (text : List Char) (hGap : ∀ c ∈ gap, isBlank c = true) :
      Respelling text (gap ++ text)
  | finish (text : List Char) {gap : List Char} (hGap : ∀ c ∈ gap, isBlank c = true) :
      Respelling text (text ++ gap)
  | letter (front : List Char) {c d : Char} (back : List Char) (h : c.toLower = d.toLower) :
      Respelling (front ++ c :: back) (front ++ d :: back)

/-- Texts that any number of such changes, made or undone, lead from one to the other. -/
def Respelled (a b : String) : Prop :=
  Relation.EqvGen Respelling a.toList b.toList

theorem words_append_blank {c : Char} (h : isBlank c = true) (front back : List Char) :
    words (front ++ c :: back) = words front ++ words back := by
  rw [words, pieces_append h, List.filter_append, words, words]

theorem words_gap_append {gap : List Char} (h : ∀ c ∈ gap, isBlank c = true) (text : List Char) :
    words (gap ++ text) = words text := by
  rw [← words_trimStart, trimStart_gap_append h, words_trimStart]

theorem words_append_gap (front : List Char) {gap : List Char} (h : ∀ c ∈ gap, isBlank c = true)
    (hSome : gap ≠ []) (back : List Char) :
    words (front ++ gap ++ back) = words front ++ words back := by
  obtain ⟨c, gap, rfl⟩ := List.exists_cons_of_ne_nil hSome
  rw [List.append_assoc, List.cons_append, words_append_blank (h c List.mem_cons_self),
    words_gap_append fun d hd => h d (List.mem_cons_of_mem c hd)]

theorem pieces_map {isCut : α → Bool} {f : α → α} (h : ∀ x, isCut (f x) = isCut x) (xs : List α) :
    pieces isCut (xs.map f) = (pieces isCut xs).map (List.map f) := by
  induction xs with
  | nil => rfl
  | cons x xs ih =>
    rw [List.map_cons, pieces, pieces, h, ih]
    split
    · rfl
    · cases pieces isCut xs <;> rfl

theorem lowerWords_map_toLower (text : List Char) :
    lowerWords (text.map Char.toLower) = lowerWords text := by
  have hWords : words (text.map Char.toLower) = (words text).map (List.map Char.toLower) := by
    rw [words, words, pieces_map isBlank_toLower, List.filter_map]
    congr 2
    funext word
    simp
  rw [lowerWords, lowerWords, hWords, List.map_map]
  exact List.map_congr_left fun word _ => lower_map_toLower word

theorem Respelling.lowerWords_eq {a b : List Char} (h : Respelling a b) :
    lowerWords a = lowerWords b := by
  cases h with
  | between front back hGap hGap' hSome hSome' =>
    rw [lowerWords, lowerWords, words_append_gap front hGap hSome,
      words_append_gap front hGap' hSome']
  | start text hGap => rw [lowerWords, lowerWords, words_gap_append hGap]
  | @finish text gap hGap =>
    by_cases hNone : gap = []
    · rw [hNone, List.append_nil]
    · have hWords := words_append_gap a hGap hNone []
      rw [List.append_nil, show words [] = [] from rfl, List.append_nil] at hWords
      rw [lowerWords, lowerWords, hWords]
  | letter front back h =>
    rw [← lowerWords_map_toLower, ← lowerWords_map_toLower (front ++ _ :: back), List.map_append,
      List.map_append, List.map_cons, List.map_cons, h]

theorem Respelled.lowerWords_eq {a b : String} (h : Respelled a b) :
    lowerWords a.toList = lowerWords b.toList := by
  rw [Respelled] at h
  generalize a.toList = front, b.toList = back at h ⊢
  induction h with
  | rel _ _ hStep => exact hStep.lowerWords_eq
  | refl => rfl
  | symm _ _ _ ih => exact ih.symm
  | trans _ _ _ _ _ ih ih' => exact ih.trans ih'

end Text

/-! ### Normal forms of argument texts -/

theorem toList_normalizeArgs (args : String) :
    (normalizeArgs args).toList = List.intercalate [' '] (lowerWords args.toList) := by
  rw [normalizeArgs, String.toList_ofList, lower_intercalate_words]

theorem words_normalizeArgs (args : String) :
    words (normalizeArgs args).toList = lowerWords args.toList := by
  rw [toList_normalizeArgs, words_intercalate fun _ => isWord_of_mem_lowerWords]

/-- Texts have the same normal form exactly when their words are the same, each in lower case. -/
theorem normalizeArgs_eq_iff {a b : String} :
    normalizeArgs a = normalizeArgs b ↔ lowerWords a.toList = lowerWords b.toList := by
  constructor
  · intro h
    rw [← words_normalizeArgs, h, words_normalizeArgs]
  · intro h
    rw [← String.toList_inj, toList_normalizeArgs, h, toList_normalizeArgs]

theorem normalizeArgs_normalizeArgs (args : String) :
    normalizeArgs (normalizeArgs args) = normalizeArgs args := by
  rw [normalizeArgs_eq_iff, lowerWords, words_normalizeArgs, lowerWords, List.map_map]
  exact List.map_congr_left fun word _ => lower_lower word

theorem normalizeArgs_eq_empty_iff {args : String} :
    normalizeArgs args = "" ↔ ∀ c ∈ args.toList, isBlank c = true := by
  have hEmpty : normalizeArgs args = "" ↔ normalizeArgs args = normalizeArgs "" := Iff.rfl
  rw [hEmpty, normalizeArgs_eq_iff, lowerWords, ← words_eq_nil_iff]
  exact List.map_eq_nil_iff

/-! ### The strategy that is found -/

/-- The argument text that belongs to a protocol. -/
def Protocol.select (tcpArgs udpArgs : String) : Protocol → String
  | tcp => tcpArgs
  | udp => udpArgs

namespace StrategySource

/-- A strategy that can be looked up, with the words of a text, case aside. -/
def IsEquivalent (source : StrategySource) (category text id : String) : Prop :=
  ∃ args, source.args category id = .ok args ∧ lowerWords args.toList = lowerWords text.toList

/-- The strategies of a category that can be looked up, with their argument texts. -/
def candidates (source : StrategySource) (category : String) : List (String × String) :=
  (source.ids category).filterMap fun id =>
    (source.args category id).toOption.map fun args => (id, args)

variable {source : StrategySource} {category text id tcpArgs udpArgs : String} {protocol : Protocol}

theorem isMatch_iff_isEquivalent :
    source.isMatch category (normalizeArgs text) id = true ↔
      source.IsEquivalent category text id := by
  rw [isMatch, IsEquivalent]
  cases source.args category id with
  | ok args => simp [normalizeArgs_eq_iff]
  | error fault => simp

theorem findStrategy?_eq_find? :
    source.findStrategy? category tcpArgs udpArgs protocol =
      if normalizeArgs (protocol.select tcpArgs udpArgs) = "" then none
      else (source.ids category).find?
        (source.isMatch category (normalizeArgs (protocol.select tcpArgs udpArgs))) := by
  cases protocol <;> rfl

theorem find?_isMatch (source : StrategySource) (category wanted : String) :
    (source.ids category).find? (source.isMatch category wanted) =
      ((source.candidates category).find? fun candidate =>
        normalizeArgs candidate.2 = wanted).map Prod.fst := by
  rw [candidates]
  induction source.ids category with
  | nil => rfl
  | cons id rest ih =>
    rw [List.find?_cons, isMatch, ih, List.filterMap_cons]
    cases source.args category id with
    | error fault => rfl
    | ok args =>
      rw [Except.toOption, Option.map_some, List.find?_cons]
      by_cases h : normalizeArgs args = wanted
      · simp [h]
      · simp [h]

/-- Strategies that differ in the spelling of their texts are found alike. -/
theorem find?_candidates_congr {as bs : List (String × String)}
    (h : List.Forall₂ (fun a b => a.1 = b.1 ∧ Respelled a.2 b.2) as bs) (wanted : String) :
    (bs.find? fun candidate => normalizeArgs candidate.2 = wanted).map Prod.fst =
      (as.find? fun candidate => normalizeArgs candidate.2 = wanted).map Prod.fst := by
  induction h with
  | nil => rfl
  | @cons a b _ _ hHead _ ih =>
    rw [List.find?_cons, List.find?_cons, normalizeArgs_eq_iff.mpr hHead.2.lowerWords_eq]
    split
    · exact congrArg some hHead.1.symm
    · exact ih

/-- Only the strategies that can be looked up count, and of each of them only its name and the words
of its text in lower case. -/
theorem findStrategy?_congr {other : StrategySource} {tcpArgs' udpArgs' : String}
    (hText : Respelled (protocol.select tcpArgs udpArgs) (protocol.select tcpArgs' udpArgs'))
    (hCandidates : List.Forall₂ (fun a b => a.1 = b.1 ∧ Respelled a.2 b.2)
      (source.candidates category) (other.candidates category)) :
    other.findStrategy? category tcpArgs' udpArgs' protocol =
      source.findStrategy? category tcpArgs udpArgs protocol := by
  rw [findStrategy?_eq_find?, findStrategy?_eq_find?, normalizeArgs_eq_iff.mpr hText.lowerWords_eq,
    find?_isMatch, find?_isMatch, find?_candidates_congr hCandidates]

/-- The strategy that is found for the text of a protocol is the first of its category that can be
looked up and has the words of the text, each in lower case; none is found exactly when there is
none or the text has no words. It stays the same when strategies that cannot be looked up come or
go, when the text of the other protocol changes, and when the text or those of the strategies are
spelled with other blanks or with ASCII letters of the other case. And the normal form of a text is
its own. -/
theorem findStrategy?_first (source : StrategySource) (category tcpArgs udpArgs : String)
    (protocol : Protocol) :
    let text := protocol.select tcpArgs udpArgs
    let found := source.findStrategy? category tcpArgs udpArgs protocol
    (∀ id, found = some id ↔ (∃ c ∈ text.toList, isBlank c = false) ∧
      source.IsEquivalent category text id ∧
      ∃ front back, source.ids category = front ++ id :: back ∧
        ∀ other ∈ front, ¬source.IsEquivalent category text other) ∧
    (found = none ↔ ¬((∃ c ∈ text.toList, isBlank c = false) ∧
      ∃ id ∈ source.ids category, source.IsEquivalent category text id)) ∧
    (∀ (other : StrategySource) (tcpArgs' udpArgs' : String),
      Respelled text (protocol.select tcpArgs' udpArgs') →
      List.Forall₂ (fun a b => a.1 = b.1 ∧ Respelled a.2 b.2)
        (source.candidates category) (other.candidates category) →
      other.findStrategy? category tcpArgs' udpArgs' protocol = found) ∧
    ∀ args, normalizeArgs (normalizeArgs args) = normalizeArgs args := by
  intro text found
  have hWords : normalizeArgs text = "" ↔ ¬∃ c ∈ text.toList, isBlank c = false := by
    simp [normalizeArgs_eq_empty_iff]
  have hFound : found = if normalizeArgs text = "" then none
      else (source.ids category).find? (source.isMatch category (normalizeArgs text)) :=
    findStrategy?_eq_find?
  refine ⟨fun id => ?_, ?_, fun other tcpArgs' udpArgs' => findStrategy?_congr,
    normalizeArgs_normalizeArgs⟩
  · rw [hFound]
    split
    · rename_i hEmpty
      simp [hWords.mp hEmpty]
    · rename_i hSome
      rw [and_iff_right (not_not.mp (mt hWords.mpr hSome))]
      simp only [List.find?_eq_some_iff_append, isMatch_iff_isEquivalent, Bool.not_eq_true',
        ← Bool.not_eq_true]
  · rw [hFound]
    split
    · rename_i hEmpty
      simp [hWords.mp hEmpty]
    · rename_i hSome
      rw [and_iff_right (not_not.mp (mt hWords.mpr hSome))]
      simp [List.find?_eq_none, isMatch_iff_isEquivalent]

/-- The first entry cannot be looked up, and the next two have the words of the text: a capital
sigma at the end of a word is a final one in lower case. The other source has no such first entry,
and it spells the texts with other blanks. -/
theorem findStrategy?_first_sigma :
    let source : StrategySource := ⟨fun _ => ["bad", "first", "second"], fun _ id =>
      if id = "bad" then .error .toml else .ok "--x=ΟΔΟΣ \n --y"⟩
    let other : StrategySource := ⟨fun _ => ["first", "second"], fun _ _ => .ok "--x=ΟΔΟΣ --y"⟩
    source.findStrategy? "games" "--x=οδος --y" "" .tcp = some "first" ∧
      other.findStrategy? "games" "--X=οδος --y" "--z" .tcp = some "first" := by
  intro source other
  obtain ⟨hSome, -, hSame, -⟩ := findStrategy?_first source "games" "--x=οδος --y" "" .tcp
  have hFound := (hSome "first").mpr ⟨⟨'-', by decide, by decide⟩, ⟨_, rfl, by decide +kernel⟩,
    ["bad"], ["second"], rfl, fun id hId => by
      rintro ⟨args, hArgs, -⟩
      rw [List.mem_singleton.mp hId] at hArgs
      contradiction⟩
  have hLetter : Respelled "--x=οδος --y" "--X=οδος --y" :=
    .rel _ _ (.letter ['-', '-'] "=οδος --y".toList (by decide))
  have hBetween : Respelling ("--x=ΟΔΟΣ".toList ++ " \n ".toList ++ "--y".toList)
      ("--x=ΟΔΟΣ".toList ++ [' '] ++ "--y".toList) :=
    .between _ _ (by simp [isBlank]) (by simp [isBlank]) (by simp) (by simp)
  have hBlanks : Respelled "--x=ΟΔΟΣ \n --y" "--x=ΟΔΟΣ --y" := .rel _ _ hBetween
  refine ⟨hFound, ?_⟩
  rw [hSame other "--X=οδος --y" "--z" hLetter
    (.cons ⟨rfl, hBlanks⟩ (.cons ⟨rfl, hBlanks⟩ .nil)), hFound]

end StrategySource

end PresetCompiler

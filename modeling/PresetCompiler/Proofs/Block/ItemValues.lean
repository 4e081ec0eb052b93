import PresetCompiler.Block.Annotation
import PresetCompiler.Proofs.Block.Flag
import PresetCompiler.Proofs.Block.Items

/-! The values of flags on lines of items. The search for a value and the tokenizer go over such
lines in different ways and find the same items, so that what is shown of a block is what its
tokens say (`fields_eq_of_tokens`). -/

namespace PresetCompiler.Text

/-! ### Values of flags among items -/

theorem after?_append {lead text rest : List Char} (hLead : ∀ c ∈ lead, isBlank c = false)
    (hRest : ∀ c ∈ rest.head?, isBlank c = true) :
    after? lead (text ++ rest) = (after? lead text).map (· ++ rest) := by
  induction lead generalizing text with
  | nil => rfl
  | cons k lead ih =>
    cases text with
    | cons c text =>
      rw [List.cons_append, after?, after?]
      split
      · exact ih fun d hd => hLead d (List.mem_cons_of_mem k hd)
      · rfl
    | nil =>
      cases rest with
      | nil => rfl
      | cons c rest =>
        have hne := ne_of_isBlank (hLead k List.mem_cons_self) (hRest c rfl)
        simp [after?, hne]

theorem firstWord_append {word rest : List Char} (hWord : ∀ c ∈ word, isBlank c = false)
    (hRest : ∀ c ∈ rest.head?, isBlank c = true) : firstWord (word ++ rest) = word := by
  have hNone : firstWord rest = [] := by
    cases rest with
    | nil => rfl
    | cons c rest => exact List.takeWhile_cons_of_neg (by simp [hRest c rfl])
  rw [firstWord, List.takeWhile_append_of_pos (by simpa using hWord), ← firstWord, hNone,
    List.append_nil]

theorem trimQuotes_of_not_mem {text : List Char} (h : '"' ∉ text) : trimQuotes text = text := by
  have hKeep {text : List Char} (h : '"' ∉ text) : text.dropWhile (· = '"') = text := by
    cases text with
    | nil => rfl
    | cons c text =>
      have hc : c ≠ '"' := fun hSame => h (hSame ▸ List.mem_cons_self)
      exact List.dropWhile_cons_of_neg (by simpa using hc)
  rw [trimQuotes, hKeep h, hKeep (by simpa using h), List.reverse_reverse]

theorem value?_word {word rest : List Char} (hBlank : ∀ c ∈ word, isBlank c = false)
    (hQuote : '"' ∉ word) (hRest : ∀ c ∈ rest.head?, isBlank c = true) :
    value? (word ++ rest) = (some word).filter (· ≠ []) := by
  cases word with
  | nil =>
    cases rest with
    | nil => rfl
    | cons c rest => exact value?_cons_blank (hRest c rfl) rest
  | cons c word =>
    have hc : c ≠ '"' := fun hSame => hQuote (hSame ▸ List.mem_cons_self)
    rw [List.cons_append, value?, if_neg fun hClosed => hc hClosed.1, bareValue?_eq,
      ← List.cons_append, firstWord_append hBlank hRest, trimQuotes_of_not_mem hQuote]
    rfl

theorem value?_quoted {value : List Char} (h : '"' ∉ value) (rest : List Char) :
    value? ('"' :: (value ++ '"' :: rest)) = some value := by
  have hValue : (value ++ '"' :: rest).takeWhile (· ≠ '"') = value := by
    rw [List.takeWhile_append_of_pos, List.takeWhile_cons_of_neg (by simp), List.append_nil]
    exact fun c hc => by simpa using fun hSame : c = '"' => h (hSame ▸ hc)
  rw [value?, if_pos ⟨rfl, by simp⟩, hValue]

/-- Two names with a sign after them are the same text only if the names are the same. -/
theorem after?_sign {name other : List Char} (hName : '=' ∉ name) (hOther : '=' ∉ other)
    (rest : List Char) :
    after? (name ++ ['=']) (other ++ '=' :: rest) = if name = other then some rest else none := by
  induction name generalizing other with
  | nil =>
    cases other with
    | nil => rfl
    | cons d other =>
      have hd : '=' ≠ d := fun hSame => hOther (hSame ▸ List.mem_cons_self)
      simp [after?, hd]
  | cons c name ih =>
    have hc : c ≠ '=' := fun hSame => hName (hSame ▸ List.mem_cons_self)
    cases other with
    | nil => simp [after?, hc]
    | cons d other =>
      have hNext := ih (fun hMem => hName (List.mem_cons_of_mem c hMem))
        (fun hMem => hOther (List.mem_cons_of_mem d hMem))
      rw [List.cons_append, List.cons_append, after?, hNext]
      by_cases hSame : c = d <;> simp [hSame]

/-- The value that a token has for a flag. -/
def tokenValue? (lead token : List Char) : Option (List Char) :=
  (after? lead token).filter (· ≠ [])

section Name

variable {name : String} (hBlank : ∀ c ∈ name.toList, isBlank c = false)
  (hSign : '=' ∉ name.toList)
include hBlank

theorem findValue?_item_word {word rest : List Char} (h : (Item.word word).IsWritten)
    (hRest : ∀ c ∈ rest.head?, isBlank c = true) :
    findValue? (flagLead name) true (word ++ rest) =
      (tokenValue? (flagLead name) word).or (findValue? (flagLead name) true rest) := by
  have hLead := isLead_flagLead hBlank
  cases h with
  | word ne_nil noBlank noQuote =>
  have hHere : (after? (flagLead name) (word ++ rest)).bind value? =
      tokenValue? (flagLead name) word := by
    rw [after?_append hLead.noBlank hRest, tokenValue?]
    cases hAfter : after? (flagLead name) word with
    | none => rfl
    | some after =>
      obtain rfl := after?_eq_some_iff.mp hAfter
      exact value?_word (fun c hc => noBlank c (List.mem_append_right _ hc))
        (fun hMem => noQuote (List.mem_append_right _ hMem)) hRest
  obtain ⟨c, tail, rfl⟩ := List.exists_cons_of_ne_nil ne_nil
  have hTail : findValue? (flagLead name) (isBlank c) (tail ++ rest) =
      findValue? (flagLead name) true rest := by
    rw [noBlank c List.mem_cons_self]
    exact findValue?_word hLead (fun d hd => noBlank d (List.mem_cons_of_mem c hd)) hRest
  rw [List.cons_append] at hHere ⊢
  rw [findValue?, if_pos rfl, hHere, hTail]
  cases tokenValue? (flagLead name) (c :: tail) <;> rfl

/-- No flag begins within a quoted value that has no two dashes side by side. -/
theorem findValue?_quoted {value rest : List Char} (h : occursIn ['-', '-'] value = false)
    (hRest : ∀ c ∈ rest.head?, isBlank c = true) (free : Bool) :
    findValue? (flagLead name) free (value ++ '"' :: rest) =
      findValue? (flagLead name) true rest := by
  have hLead := isLead_flagLead hBlank
  induction value generalizing free with
  | nil =>
    have hNone : after? (flagLead name) ('"' :: rest) = none := by simp [flagLead_eq, after?]
    rw [List.nil_append, findValue?, hNone, Option.bind_none, ite_self]
    exact findValue?_word hLead (List.forall_mem_nil _) hRest
  | cons c value ih =>
    rw [occursIn, Bool.or_eq_false_iff] at h
    have hNone : after? (flagLead name) (c :: (value ++ '"' :: rest)) = none := by
      cases value with
      | nil => simp [flagLead_eq, after?]
      | cons d value =>
        have hDashes : ¬('-' = c ∧ '-' = d) := by simpa [startsWith, after?] using h.1
        rw [flagLead_eq, List.cons_append, after?]
        by_cases hc : '-' = c
        · rw [if_pos hc, after?, if_neg fun hd => hDashes ⟨hc, hd⟩]
        · rw [if_neg hc]
    rw [List.cons_append, findValue?, hNone, Option.bind_none, ite_self]
    exact ih h.2 (isBlank c)

omit hBlank in
include hSign in
theorem after?_flagLead {other : List Char} (hOther : '=' ∉ other) (rest : List Char) :
    after? (flagLead name) ('-' :: '-' :: (other ++ '=' :: rest)) =
      if name.toList = other then some rest else none := by
  rw [flagLead_eq, after?, if_pos rfl, after?, if_pos rfl, after?_sign hSign hOther]

include hSign in
theorem findValue?_item_flag {other value rest : List Char} (h : (Item.flag other value).IsWritten)
    (hRest : ∀ c ∈ rest.head?, isBlank c = true) :
    findValue? (flagLead name) true ((Item.flag other value).text ++ rest) =
      (tokenValue? (flagLead name) (Item.flag other value).token).or
        (findValue? (flagLead name) true rest) := by
  cases h with
  | flag noBlank noSign noQuote ne_nil closed noFeed noFlag =>
  have hText : (Item.flag other value).text ++ rest =
      '-' :: '-' :: (other ++ '=' :: '"' :: (value ++ '"' :: rest)) := by
    simp [Item.text]
  rw [hText, findValue?, if_pos rfl, tokenValue?, Item.token, after?_flagLead hSign noSign,
    after?_flagLead hSign noSign]
  by_cases hSame : name.toList = other
  · rw [if_pos hSame, if_pos hSame, Option.bind_some, value?_quoted closed, Option.filter_some,
      if_pos (by simpa using ne_nil)]
    rfl
  · have hDashes : ∀ c ∈ '-' :: (other ++ ['=', '"']), isBlank c = false := by
      intro c hc
      simp only [List.mem_cons, List.mem_append, List.not_mem_nil, or_false] at hc
      rcases hc with rfl | hc | rfl | rfl
      · decide
      · exact noBlank c hc
      · decide
      · decide
    rw [if_neg hSame, if_neg hSame, Option.bind_none, Option.filter_none, Option.none_or]
    calc findValue? (flagLead name) (isBlank '-')
          ('-' :: (other ++ '=' :: '"' :: (value ++ '"' :: rest)))
        = findValue? (flagLead name) false
            ('-' :: (other ++ ['=', '"']) ++ (value ++ '"' :: rest)) := by
          rw [hDashes '-' List.mem_cons_self]
          simp
      _ = findValue? (flagLead name) false (value ++ '"' :: rest) :=
          findValue?_false_append hDashes _
      _ = findValue? (flagLead name) true rest := findValue?_quoted hBlank noFlag hRest false

include hSign in
theorem findValue?_item {item : Item} (h : item.IsWritten) {rest : List Char}
    (hRest : ∀ c ∈ rest.head?, isBlank c = true) :
    findValue? (flagLead name) true (item.text ++ rest) =
      (tokenValue? (flagLead name) item.token).or (findValue? (flagLead name) true rest) := by
  cases item with
  | word word => exact findValue?_item_word hBlank h hRest
  | flag other value => exact findValue?_item_flag hBlank hSign h hRest

include hSign in
theorem findValue?_items {items : List Item} {text : List Char} (h : Itemized items text) :
    findValue? (flagLead name) true text =
      items.findSome? fun item => tokenValue? (flagLead name) item.token := by
  induction h with
  | nil => rfl
  | gap blank _ ih => rw [findValue?_cons_blank (isLead_flagLead hBlank) blank, ih]
  | item written ends _ ih =>
    rw [findValue?_item hBlank hSign written ends, ih, List.findSome?_cons]
    split <;> simp_all

end Name

/-! ### Values of launched tokens -/

/-- The value of the first token that has one for a flag. -/
def launchedValue? (name : String) (tokens : List String) : Option (List Char) :=
  tokens.findSome? fun token => tokenValue? (flagLead name) token.toList

theorem flagValue?_eq_launchedValue? {name text : String}
    (hBlank : ∀ c ∈ name.toList, isBlank c = false) (hSign : '=' ∉ name.toList)
    (h : ∀ line ∈ lines text.toList, IsItemLine line) :
    flagValue? name text.toList = launchedValue? name (tokenize text) := by
  obtain ⟨items, hItems, hTokens⟩ := exists_items h
  rw [flagValue?_eq, findValue?_items hBlank hSign hItems, launchedValue?, tokenize_eq, hTokens,
    List.findSome?_map]
  simp only [Function.comp_def, String.toList_ofList]

end PresetCompiler.Text

namespace PresetCompiler

open Text

/-- What is read of a block is what its tokens say: the ports come from the first token that has
some, TCP before UDP before an application protocol, and the list file likewise. -/
theorem fields_eq_of_tokens {text : String} (h : ∀ line ∈ lines text.toList, IsItemLine line) :
    readProtocol text.toList =
        (match launchedValue? "filter-tcp" (tokenize text) with
        | some ports => (.tcp, String.ofList ports)
        | none =>
          match launchedValue? "filter-udp" (tokenize text) with
          | some ports => (.udp, String.ofList ports)
          | none =>
            match launchedValue? "filter-l7" (tokenize text) with
            | some name => (.udp, String.ofList name)
            | none => (.tcp, "443")) ∧
      (match launchedValue? "hostlist" (tokenize text), launchedValue? "ipset" (tokenize text) with
        | some path, _ => readTarget text.toList = .ofFile .hostlist path
        | none, some path => readTarget text.toList = .ofFile .ipset path
        | none, none =>
          (readTarget text.toList).listFile = "" ∧
            (readTarget text.toList).category = "unknown") := by
  have hValue {name : String} (hBlank : ∀ c ∈ name.toList, isBlank c = false)
      (hSign : '=' ∉ name.toList) :
      launchedValue? name (tokenize text) = flagValue? name text.toList :=
    (flagValue?_eq_launchedValue? hBlank hSign h).symm
  rw [hValue (noBlank_of_all (by decide)) (by decide),
    hValue (noBlank_of_all (by decide)) (by decide),
    hValue (noBlank_of_all (by decide)) (by decide),
    hValue (noBlank_of_all (by decide)) (by decide),
    hValue (noBlank_of_all (by decide)) (by decide)]
  refine ⟨rfl, ?_⟩
  rw [readTarget]
  cases flagValue? "hostlist" text.toList with
  | some path => rfl
  | none =>
    cases flagValue? "ipset" text.toList with
    | some path => rfl
    | none => split_ifs <;> exact ⟨rfl, rfl⟩

/-- A flag without a value, a carriage return, and a list file whose name has a blank. -/
theorem fields_eq_of_tokens_blank :
    let text := " --filter-tcp= --filter-udp=443\r\n--hostlist=\"my list.txt\""
    (∀ line ∈ lines text.toList, IsItemLine line) ∧
      readProtocol text.toList = (.udp, "443") ∧
      readTarget text.toList = .ofFile .hostlist "my list.txt".toList := by
  intro text
  have hLines : lines text.toList =
      [" --filter-tcp= --filter-udp=443".toList, "--hostlist=\"my list.txt\"".toList] := by
    decide +kernel
  have hWord {text : List Char} (hNil : text ≠ []) (hBlank : (text.all fun c => !isBlank c) = true)
      (hQuote : '"' ∉ text) : (Item.word text).IsWritten :=
    .word hNil (noBlank_of_all hBlank) hQuote
  have hPorts : Itemized [.word "--filter-tcp=".toList, .word "--filter-udp=443".toList]
      " --filter-tcp= --filter-udp=443".toList :=
    .gap (by decide) (.item (hWord (by decide) (by decide) (by decide)) (by rintro _ ⟨⟩; rfl)
      (.gap (by decide) (.item (hWord (by decide) (by decide) (by decide)) (by simp) .nil)))
  have hTarget : Itemized [.flag "hostlist".toList "my list.txt".toList]
      "--hostlist=\"my list.txt\"".toList :=
    .item (.flag (noBlank_of_all (by decide)) (by decide) (by decide) (by decide) (by decide)
      (by decide) (by decide)) (by simp) .nil
  have h : ∀ line ∈ lines text.toList, IsItemLine line := by
    rw [hLines]
    intro line hLine
    rcases List.mem_pair.mp hLine with rfl | rfl
    · exact ⟨by decide, _, hPorts⟩
    · exact ⟨by decide, _, hTarget⟩
  have hFields := fields_eq_of_tokens h
  have hTcp : launchedValue? "filter-tcp" (tokenize text) = none := by decide +kernel
  have hUdp : launchedValue? "filter-udp" (tokenize text) = some "443".toList := by decide +kernel
  have hHosts : launchedValue? "hostlist" (tokenize text) = some "my list.txt".toList := by
    decide +kernel
  rw [hTcp, hUdp, hHosts] at hFields
  exact ⟨h, hFields⟩

end PresetCompiler

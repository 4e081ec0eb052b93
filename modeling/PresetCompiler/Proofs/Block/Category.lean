import PresetCompiler.Proofs.Block.ItemValues
import PresetCompiler.Proofs.Text.LowerCase

/-! The category that a list file stands for. Of the path that a flag names only the part after the
last separator counts, and a category is never empty. What the name of a list file has around its
stem is taken away again, each affix once: the directory, the extension, one list ending and the list
lead (`categoryOfPath_path`). -/

namespace PresetCompiler

open Text

/-! ### Paths -/

/-- A text that may stand in front of a file name: nothing, or something up to a separator. -/
def IsDirectory (directory : List Char) : Prop :=
  ∀ c ∈ directory.getLast?, c = '/' ∨ c = '\\'

instance (directory : List Char) : Decidable (IsDirectory directory) :=
  decidable_of_iff (directory.getLast?.all fun c => c = '/' ∨ c = '\\')
    (by cases h : directory.getLast? <;> simp [IsDirectory, h])

/-- A text without separators. -/
def IsFileName (name : List Char) : Prop :=
  ∀ c ∈ name, c ≠ '/' ∧ c ≠ '\\'

instance (name : List Char) : Decidable (IsFileName name) :=
  decidable_of_iff (name.all fun c => c ≠ '/' ∧ c ≠ '\\') (by simp [IsFileName])

/-- A text without blanks and double quotes, as a bare value of a flag is. -/
def IsPlainText (text : List Char) : Prop :=
  ∀ c ∈ text, isBlank c = false ∧ c ≠ '"'

instance (text : List Char) : Decidable (IsPlainText text) :=
  decidable_of_iff (text.all fun c => isBlank c = false ∧ c ≠ '"') (by simp [IsPlainText])

theorem fileName_append {directory name : List Char} (hDirectory : IsDirectory directory)
    (hName : IsFileName name) : fileName (directory ++ name) = name := by
  have hKept : ∀ c ∈ name.reverse, (c ≠ '/' && c ≠ '\\') = true := by
    intro c hc
    simpa using hName c (List.mem_reverse.mp hc)
  have hDropped : directory.reverse.takeWhile (fun c => c ≠ '/' && c ≠ '\\') = [] := by
    rcases List.eq_nil_or_concat directory with rfl | ⟨front, last, rfl⟩
    · rfl
    · rw [List.concat_eq_append, List.reverse_append]
      refine List.takeWhile_cons_of_neg ?_
      rcases hDirectory last (by simp) with rfl | rfl <;> decide
  rw [fileName, List.reverse_append, List.takeWhile_append_of_pos hKept, hDropped, List.append_nil,
    List.reverse_reverse]

theorem fileStem_append {extension : List Char} (h : '.' ∉ extension) (stem : List Char) :
    fileStem (stem ++ '.' :: extension) = stem := by
  have hSplit : splitOnce '.' (stem ++ '.' :: extension).reverse =
      some (extension.reverse, stem.reverse) :=
    splitOnce_eq_some_iff.mpr ⟨by simp, by simpa using h⟩
  rw [fileStem, splitLast, hSplit]
  exact List.reverse_reverse stem

/-! ### Affixes -/

/-- No list ending ends with another one. -/
theorem ending_unique {ending other : String} (hEnding : ending ∈ listEndings)
    (hOther : other ∈ listEndings) {stem rest : List Char}
    (h : stem ++ ending.toList = rest ++ other.toList) : other = ending ∧ rest = stem := by
  have hApart : ∀ ending ∈ listEndings, ∀ other ∈ listEndings,
      ending.toList <:+ other.toList → ending = other := by decide
  have hSame : other = ending := by
    rcases List.suffix_or_suffix_of_suffix (⟨stem, rfl⟩ : ending.toList <:+ _)
      (⟨rest, h.symm⟩ : other.toList <:+ _) with hSuffix | hSuffix
    · exact (hApart ending hEnding other hOther hSuffix).symm
    · exact hApart other hOther ending hEnding hSuffix
  subst hSame
  exact ⟨rfl, (List.append_cancel_right h).symm⟩

theorem findSome?_before?_append {ending : String} (h : ending ∈ listEndings) (stem : List Char) :
    listEndings.findSome? (fun tail => before? tail.toList (stem ++ ending.toList)) = some stem := by
  cases hFind : listEndings.findSome? fun tail => before? tail.toList (stem ++ ending.toList) with
  | none =>
    have hNone := List.findSome?_eq_none_iff.mp hFind ending h
    rw [before?_eq_some_iff.mpr rfl] at hNone
    contradiction
  | some rest =>
    obtain ⟨other, hOther, hBefore⟩ := List.exists_of_findSome?_eq_some hFind
    rw [(ending_unique h hOther (before?_eq_some_iff.mp hBefore)).2]

theorem findSome?_before?_eq_none {stem : List Char}
    (h : ∀ ending ∈ listEndings, ¬ending.toList <:+ stem) :
    listEndings.findSome? (fun tail => before? tail.toList stem) = none := by
  refine List.findSome?_eq_none_iff.mpr fun ending hEnding => ?_
  refine Option.eq_none_iff_forall_ne_some.mpr fun rest hRest => h ending hEnding ⟨rest, ?_⟩
  exact (before?_eq_some_iff.mp hRest).symm

/-! ### List files -/

/-- A list file by the parts of its path. -/
structure ListFile where
  directory : String
  /-- The list lead, or nothing. -/
  lead : String
  stem : String
  /-- A list ending, or nothing. -/
  ending : String
  extension : String

namespace ListFile

/-- The name of a list file up to its extension. -/
def fullStem (file : ListFile) : List Char :=
  file.lead.toList ++ file.stem.toList ++ file.ending.toList

def path (file : ListFile) : String :=
  file.directory ++ (file.lead ++ file.stem ++ file.ending ++ "." ++ file.extension)

theorem toList_path (file : ListFile) :
    file.path.toList = file.directory.toList ++ (file.fullStem ++ '.' :: file.extension.toList) := by
  simp [path, fullStem]

/-- What the parts of a list file's path may be. Only the directory has separators, and what is not
given as lead or ending must not look like one. -/
structure IsRegular (file : ListFile) : Prop where
  isDirectory : IsDirectory file.directory.toList
  lead : file.lead = "" ∨ file.lead = listLead
  stem_ne : file.stem ≠ ""
  isFileName : IsFileName file.stem.toList ∧ IsFileName file.extension.toList
  ending : file.ending = "" ∨ file.ending ∈ listEndings
  noDot : '.' ∉ file.extension.toList
  plain : ∀ part ∈ [file.directory, file.stem, file.extension], IsPlainText part.toList
  noLead : file.lead = "" → ¬listLead.toList <+: file.stem.toList
  noEnding : file.ending = "" → ∀ ending ∈ listEndings,
    ¬ending.toList <:+ file.lead.toList ++ file.stem.toList

variable {file : ListFile} (h : file.IsRegular)
include h

/-- The affixes that a path is written with are plain, as its other parts are. -/
theorem IsRegular.plain_affix {affix : String} (hAffix : affix = file.lead ∨ affix = file.ending) :
    IsPlainText affix.toList ∧ IsFileName affix.toList := by
  have hPlain : ∀ affix ∈ "" :: listLead :: listEndings,
      IsPlainText affix.toList ∧ IsFileName affix.toList := by decide +kernel
  refine hPlain affix ?_
  rcases hAffix with rfl | rfl
  · rcases h.lead with hNone | hLead
    · exact hNone ▸ List.mem_cons_self
    · exact hLead ▸ List.mem_cons_of_mem _ List.mem_cons_self
  · rcases h.ending with hNone | hEnding
    · exact hNone ▸ List.mem_cons_self
    · exact List.mem_cons_of_mem _ (List.mem_cons_of_mem _ hEnding)

theorem IsRegular.plain_path : IsPlainText file.path.toList := by
  intro c hc
  simp only [toList_path, fullStem, List.mem_append, List.mem_cons] at hc
  rcases hc with hc | ((hc | hc) | hc) | rfl | hc
  · exact h.plain file.directory (by simp) c hc
  · exact (h.plain_affix (.inl rfl)).1 c hc
  · exact h.plain file.stem (by simp) c hc
  · exact (h.plain_affix (.inr rfl)).1 c hc
  · decide
  · exact h.plain file.extension (by simp) c hc

theorem IsRegular.fileName_path :
    fileName file.path.toList = file.fullStem ++ '.' :: file.extension.toList := by
  rw [toList_path, fileName_append h.isDirectory]
  intro c hc
  simp only [fullStem, List.mem_append, List.mem_cons] at hc
  rcases hc with ((hc | hc) | hc) | rfl | hc
  · exact (h.plain_affix (.inl rfl)).2 c hc
  · exact h.isFileName.1 c hc
  · exact (h.plain_affix (.inr rfl)).2 c hc
  · decide
  · exact h.isFileName.2 c hc

theorem IsRegular.plainStem_fullStem : plainStem file.fullStem = file.stem.toList := by
  have hEnding : (listEndings.findSome? fun tail => before? tail.toList file.fullStem).getD
      file.fullStem = file.lead.toList ++ file.stem.toList := by
    rcases h.ending with hNone | hMem
    · have hStem : file.fullStem = file.lead.toList ++ file.stem.toList := by simp [fullStem, hNone]
      rw [hStem, findSome?_before?_eq_none (h.noEnding hNone), Option.getD_none]
    · rw [fullStem, findSome?_before?_append hMem, Option.getD_some]
  rw [plainStem, hEnding]
  rcases h.lead with hNone | hLead
  · have hNot : after? listLead.toList file.stem.toList = none := by
      refine Option.eq_none_iff_forall_ne_some.mpr fun rest hRest => h.noLead hNone ⟨rest, ?_⟩
      exact (after?_eq_some_iff.mp hRest).symm
    rw [hNone, String.toList_empty, List.nil_append, hNot, Option.getD_none]
  · rw [hLead, after?_eq_some_iff.mpr rfl, Option.getD_some]

theorem IsRegular.categoryOfPath_path :
    categoryOfPath file.path.toList = String.ofList (lower file.stem.toList) := by
  have hStem : file.stem.toList ≠ [] := by simpa using h.stem_ne
  rw [categoryOfPath, h.fileName_path, fileStem_append h.noDot, h.plainStem_fullStem]
  split
  · contradiction
  · rfl

end ListFile

/-! ### Categories of flags -/

theorem categoryOfPath_ne_empty (path : List Char) : categoryOfPath path ≠ "" := by
  rw [categoryOfPath]
  split
  · decide
  · rename_i stem hStem
    simpa [lower_eq_nil_iff] using hStem

theorem categoryOfPath_append {directory name : List Char} (hDirectory : IsDirectory directory)
    (hName : IsFileName name) : categoryOfPath (directory ++ name) = categoryOfPath name := by
  have hEmpty : IsDirectory [] := by simp [IsDirectory]
  have hSelf : fileName name = name := fileName_append hEmpty hName
  rw [categoryOfPath, fileName_append hDirectory hName, categoryOfPath, hSelf]

/-- The path that a block names as its list file, by a flag of either family. -/
def listPath? (args : List Char) : Option (List Char) :=
  (flagValue? "hostlist" args).or (flagValue? "ipset" args)

theorem category_of_listPath? {args path : List Char} (h : listPath? args = some path) :
    (readTarget args).category = categoryOfPath path := by
  rw [listPath?] at h
  rw [readTarget]
  cases hHost : flagValue? "hostlist" args with
  | some value =>
    rw [hHost, Option.some_or, Option.some.injEq] at h
    rw [← h]
    rfl
  | none =>
    rw [hHost, Option.none_or] at h
    rw [h]
    rfl

theorem flagValue?_flagLead {name : String} {written value : List Char}
    (h : value? written = some value) : flagValue? name (flagLead name ++ written) = some value := by
  have hAfter : after? (flagLead name) (flagLead name ++ written) = some written :=
    after?_eq_some_iff.mpr rfl
  rw [flagValue?_eq]
  cases hText : flagLead name ++ written with
  | nil => simp [flagLead_eq] at hText
  | cons c rest =>
    rw [hText] at hAfter
    rw [findValue?, if_pos rfl, hAfter, Option.bind_some, h]

/-- A text without blanks has no flag but the one that it starts with. -/
theorem flagValue?_of_noBlank {name : String} {text : List Char}
    (hBlank : ∀ c ∈ text, isBlank c = false) (hStart : after? (flagLead name) text = none) :
    flagValue? name text = none := by
  cases text with
  | nil => rfl
  | cons c rest =>
    have hRest : findValue? (flagLead name) false (rest ++ []) =
        findValue? (flagLead name) false [] :=
      findValue?_false_append (fun d hd => hBlank d (List.mem_cons_of_mem c hd)) []
    rw [List.append_nil] at hRest
    rw [flagValue?_eq, findValue?, hStart, hBlank c List.mem_cons_self]
    exact hRest

/-- The two ways in which a value without blanks and quotes may be written. -/
def writtenForms (value : String) : List String :=
  [value, "\"" ++ value ++ "\""]

section Written

variable {value written : String} (hWritten : written ∈ writtenForms value)
  (hPlain : IsPlainText value.toList)
include hWritten hPlain

theorem noBlank_written : ∀ c ∈ written.toList, isBlank c = false := by
  rcases List.mem_pair.mp hWritten with rfl | rfl
  · exact fun c hc => (hPlain c hc).1
  · intro c hc
    simp only [String.toList_append, List.mem_append] at hc
    rcases hc with (hc | hc) | hc
    · obtain rfl := List.mem_singleton.mp hc
      decide
    · exact (hPlain c hc).1
    · obtain rfl := List.mem_singleton.mp hc
      decide

/-- The value of a flag goes up to the next blank. -/
theorem value?_written_append (hNil : value ≠ "") {rest : List Char}
    (hRest : ∀ c ∈ rest.head?, isBlank c = true) :
    value? (written.toList ++ rest) = some value.toList := by
  have hQuote : '"' ∉ value.toList := fun hMem => (hPlain '"' hMem).2 rfl
  rcases List.mem_pair.mp hWritten with rfl | rfl
  · rw [value?_word (fun c hc => (hPlain c hc).1) hQuote hRest, Option.filter_some,
      if_pos (by simpa using hNil)]
  · have hQuoted := value?_quoted hQuote rest
    simpa using hQuoted

theorem value?_written (hNil : value ≠ "") : value? written.toList = some value.toList := by
  have hEnd : ∀ c ∈ ([] : List Char).head?, isBlank c = true := by simp
  simpa using value?_written_append hWritten hPlain hNil hEnd

end Written

/-- A flag of either family with a list file, bare or in quotes, gives the stem of the file in lower
case as category, with the path as it is written. Of any path that a block names for its list file,
only the part after the last separator counts, and the category is not empty. -/
theorem readTarget_listFile :
    (∀ file : ListFile, file.IsRegular → ∀ targeting ∈ [Targeting.hostlist, .ipset],
      ∀ written ∈ writtenForms file.path,
        readTarget ("--" ++ targeting.name ++ "=" ++ written).toList =
          ⟨String.ofList (lower file.stem.toList), targeting, file.path⟩) ∧
    (∀ args path, listPath? args = some path → (readTarget args).category ≠ "") ∧
    ∀ (args args' directory directory' name : List Char), IsDirectory directory →
      IsDirectory directory' → IsFileName name → listPath? args = some (directory ++ name) →
      listPath? args' = some (directory' ++ name) →
      (readTarget args).category = (readTarget args').category := by
  refine ⟨fun file hFile targeting hTargeting written hWritten => ?_, fun args path hPath => ?_,
    fun args args' directory directory' name hDirectory hDirectory' hName hPath hPath' => ?_⟩
  · have hPlain := hFile.plain_path
    have hNil : file.path ≠ "" := by
      rw [← String.toList_inj.ne, ListFile.toList_path]
      simp
    have hValue := value?_written hWritten hPlain hNil
    have hTarget (targeting : Targeting) : Target.ofFile targeting file.path.toList =
        ⟨String.ofList (lower file.stem.toList), targeting, file.path⟩ := by
      rw [Target.ofFile, hFile.categoryOfPath_path, String.ofList_toList]
    rw [String.toList_append]
    rcases List.mem_pair.mp hTargeting with rfl | rfl
    · rw [readTarget, show ("--" ++ Targeting.hostlist.name ++ "=").toList = flagLead "hostlist"
        from rfl, flagValue?_flagLead hValue]
      exact hTarget .hostlist
    · have hOther : flagValue? "hostlist" (flagLead "ipset" ++ written.toList) = none := by
        refine flagValue?_of_noBlank (fun c hc => ?_) (by simp [flagLead, after?])
        rcases List.mem_append.mp hc with hc | hc
        · exact noBlank_of_all (by decide) c hc
        · exact noBlank_written hWritten hPlain c hc
      rw [readTarget, show ("--" ++ Targeting.ipset.name ++ "=").toList = flagLead "ipset" from rfl,
        hOther, flagValue?_flagLead hValue]
      exact hTarget .ipset
  · rw [category_of_listPath? hPath]
    exact categoryOfPath_ne_empty path
  · rw [category_of_listPath? hPath, category_of_listPath? hPath',
      categoryOfPath_append hDirectory hName, categoryOfPath_append hDirectory' hName]

/-- The stem looks like a lead and has a dot of its own, and the path has both kinds of separator. -/
theorem readTarget_listFile_nested :
    readTarget "--ipset=\"C:\\lists/ipset-ipset.V1-hosts.txt\"".toList =
        ⟨"ipset.v1", .ipset, "C:\\lists/ipset-ipset.V1-hosts.txt"⟩ ∧
      (readTarget "--x\n--hostlist=other/ipset-ipset.V1-hosts.txt".toList).category =
        (readTarget "--ipset=\"C:\\lists/ipset-ipset.V1-hosts.txt\"".toList).category := by
  let file : ListFile := ⟨"C:\\lists/", listLead, "ipset.V1", "-hosts", "txt"⟩
  have hFile : file.IsRegular :=
    ⟨by decide +kernel, .inr rfl, by decide +kernel, by decide, .inr (by decide), by decide +kernel,
      by decide, fun hLead => absurd hLead (by decide), fun hEnding => absurd hEnding (by decide)⟩
  obtain ⟨hTarget, -, hName⟩ := readTarget_listFile
  refine ⟨?_, ?_⟩
  · have hRead := hTarget file hFile .ipset (by decide) _ (List.mem_cons_of_mem _ List.mem_cons_self)
    rwa [show String.ofList (lower file.stem.toList) = "ipset.v1" by decide +kernel] at hRead
  · exact hName _ _ "other/".toList "C:\\lists/".toList "ipset-ipset.V1-hosts.txt".toList
      (by decide +kernel) (by decide +kernel) (by decide +kernel) (by decide +kernel)
      (by decide +kernel)

end PresetCompiler

/-! Searching for a fixed text inside another, and replacing it. -/

namespace PresetCompiler.Text

/-- What follows `lead` in a text that starts with it. -/
def after? : List Char → List Char → Option (List Char)
  | [], text => some text
  | _ :: _, [] => none
  | c :: lead, d :: text => if c = d then after? lead text else none

/-- Taking a lead away accepts exactly the texts made of the lead and the rest. -/
theorem after?_eq_some_iff {lead text rest : List Char} :
    after? lead text = some rest ↔ text = lead ++ rest := by
  induction lead generalizing text with
  | nil => simp [after?]
  | cons c lead ih =>
    cases text with
    | nil => simp [after?]
    | cons d text =>
      simp only [after?]
      split
      · rename_i h
        subst h
        simp [ih]
      · rename_i h
        simp only [List.cons_append, List.cons.injEq]
        constructor
        · intro h'
          cases h'
        · intro h'
          exact absurd h'.1.symm h

/-- Whether a text starts with `lead`. -/
def startsWith (lead text : List Char) : Bool :=
  (after? lead text).isSome

theorem startsWith_iff {lead text : List Char} :
    startsWith lead text = true ↔ ∃ rest, text = lead ++ rest := by
  simp [startsWith, Option.isSome_iff_exists, after?_eq_some_iff]

/-- Whether a text starts with one of several leads. -/
def startsWithAny (leads : List (List Char)) (text : List Char) : Bool :=
  leads.any fun lead => startsWith lead text

/-- What precedes `tail` in a text that ends with it. -/
def before? (tail text : List Char) : Option (List Char) :=
  (after? tail.reverse text.reverse).map List.reverse

theorem before?_eq_some_iff {tail text rest : List Char} :
    before? tail text = some rest ↔ text = rest ++ tail := by
  simp only [before?, Option.map_eq_some_iff, after?_eq_some_iff]
  constructor
  · rintro ⟨a, h, rfl⟩
    have := congrArg List.reverse h
    simpa using this
  · rintro rfl
    exact ⟨rest.reverse, by simp, by simp⟩

/-- Whether `needle` stands somewhere in a text. -/
def occursIn (needle : List Char) : List Char → Bool
  | [] => needle.isEmpty
  | c :: text => startsWith needle (c :: text) || occursIn needle text

/-- Replaces the occurrences of `old` from the left, each after the end of the one before; the
first `skip` characters belong to an occurrence that was replaced already. -/
def replaceFrom (old new : List Char) (skip : Nat) : List Char → List Char
  | [] => []
  | c :: text =>
    match skip with
    | skip + 1 => replaceFrom old new skip text
    | 0 =>
      if startsWith old (c :: text) then new ++ replaceFrom old new (old.length - 1) text
      else c :: replaceFrom old new 0 text

/-- The text with every occurrence of `old` replaced by `new`, from the left and without overlap. -/
def replaceAll (old new text : List Char) : List Char :=
  replaceFrom old new 0 text

end PresetCompiler.Text

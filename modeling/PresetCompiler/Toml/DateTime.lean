/-! Dates and times as TOML has them: a date, a time of day, or both, and with both an offset from
UTC. -/

namespace PresetCompiler.Toml

/-- A day of the calendar. -/
structure Date where
  year : Nat
  month : Nat
  day : Nat
  deriving DecidableEq, Repr

/-- A time of day. -/
structure TimeOfDay where
  hour : Nat
  minute : Nat
  second : Nat
  nanosecond : Nat
  deriving DecidableEq, Repr

/-- How far a clock is from UTC. -/
inductive Offset
  | utc
  /-- So many minutes east of UTC, or west when negative. -/
  | east (minutes : Int)
  deriving DecidableEq, Repr

/-- A date-time of TOML. -/
inductive DateTime
  | offset (date : Date) (time : TimeOfDay) (offset : Offset)
  | both (date : Date) (time : TimeOfDay)
  | date (date : Date)
  | time (time : TimeOfDay)
  deriving DecidableEq, Repr

/-- The decimal digits of a number, with zeros before them up to a width. -/
def zeroPadded (width n : Nat) : List Char :=
  let digits := Nat.toDigits 10 n
  List.replicate (width - digits.length) '0' ++ digits

/-- The text of a date. -/
def Date.text (date : Date) : List Char :=
  zeroPadded 4 date.year ++ '-' :: zeroPadded 2 date.month ++ '-' :: zeroPadded 2 date.day

/-- The text of a time of day, with the digits of a fraction that are needed. -/
def TimeOfDay.text (time : TimeOfDay) : List Char :=
  let fraction := (zeroPadded 9 time.nanosecond).reverse.dropWhile (· = '0')
  zeroPadded 2 time.hour ++ ':' :: zeroPadded 2 time.minute ++ ':' :: zeroPadded 2 time.second ++
    if fraction = [] then [] else '.' :: fraction.reverse

/-- The text of an offset. -/
def Offset.text : Offset → List Char
  | .utc => ['Z']
  | .east minutes =>
    let size := minutes.natAbs
    (if minutes < 0 then '-' else '+') ::
      zeroPadded 2 (size / 60) ++ ':' :: zeroPadded 2 (size % 60)

/-- The text of a date-time, with `T` between date and time. -/
def DateTime.text : DateTime → String
  | .offset day clock zone => String.ofList (day.text ++ 'T' :: clock.text ++ zone.text)
  | .both day clock => String.ofList (day.text ++ 'T' :: clock.text)
  | .date day => String.ofList day.text
  | .time clock => String.ofList clock.text

/-! ### Reading -/

/-- A number written with exactly so many digits, and the rest. -/
def readFixed? : Nat → Nat → List Char → Option (Nat × List Char)
  | 0, value, text => some (value, text)
  | _ + 1, _, [] => none
  | width + 1, value, c :: rest =>
    if c.isDigit then readFixed? width (value * 10 + (c.toNat - '0'.toNat)) rest else none

/-- The rest of a text that starts with a character. -/
def afterMark? (mark : Char) : List Char → Option (List Char)
  | [] => none
  | c :: rest => if c = mark then some rest else none

/-- Whether a year has a 29th of February. -/
def isLeapYear (year : Nat) : Bool :=
  year % 4 = 0 && (year % 100 ≠ 0 || year % 400 = 0)

/-- The days of a month. -/
def daysInMonth (year month : Nat) : Nat :=
  if month = 2 then if isLeapYear year then 29 else 28
  else if month ∈ [4, 6, 9, 11] then 30
  else 31

/-- Whether a date exists in the calendar. -/
def Date.isValid (date : Date) : Bool :=
  1 ≤ date.month && date.month ≤ 12 && 1 ≤ date.day && date.day ≤ daysInMonth date.year date.month

/-- Reads a date at the start of a text. -/
def readDate? (text : List Char) : Option (Date × List Char) := do
  let (year, text) ← readFixed? 4 0 text
  let (month, text) ← readFixed? 2 0 (← afterMark? '-' text)
  let (day, text) ← readFixed? 2 0 (← afterMark? '-' text)
  let date : Date := ⟨year, month, day⟩
  if date.isValid then some (date, text) else none

/-- The nanoseconds that the digits of a fraction stand for; digits after the ninth do not count. -/
def nanoseconds (digits : List Char) : Nat :=
  let nine := (digits ++ List.replicate 9 '0').take 9
  nine.foldl (fun value c => value * 10 + (c.toNat - '0'.toNat)) 0

/-- Reads the fraction of a second at the start of a text, when there is one. -/
def readFraction (text : List Char) : Nat × List Char :=
  match afterMark? '.' text with
  | none => (0, text)
  | some rest =>
    let digits := rest.takeWhile Char.isDigit
    if digits = [] then (0, text) else (nanoseconds digits, rest.dropWhile Char.isDigit)

/-- Reads a time of day at the start of a text. A second may be the 61st of its minute. -/
def readTime? (text : List Char) : Option (TimeOfDay × List Char) := do
  let (hour, text) ← readFixed? 2 0 text
  let (minute, text) ← readFixed? 2 0 (← afterMark? ':' text)
  let (second, text) ← readFixed? 2 0 (← afterMark? ':' text)
  let (nanosecond, text) := readFraction text
  if hour ≤ 23 ∧ minute ≤ 59 ∧ second ≤ 60 then some (⟨hour, minute, second, nanosecond⟩, text)
  else none

/-- Reads an offset at the start of a text. -/
def readOffset? : List Char → Option (Offset × List Char)
  | [] => none
  | c :: rest => do
    if c = 'Z' ∨ c = 'z' then return (.utc, rest)
    let negative ← if c = '-' then some true else if c = '+' then some false else none
    let (hours, rest) ← readFixed? 2 0 rest
    let (minutes, rest) ← readFixed? 2 0 (← afterMark? ':' rest)
    let size : Int := hours * 60 + minutes
    if hours ≤ 23 ∧ minutes ≤ 59 then return (.east (if negative then -size else size), rest)
    else none

/-- Reads the time that follows a date, after `T` or a space. -/
def readTimeAfterDate? : List Char → Option (TimeOfDay × List Char)
  | [] => none
  | c :: rest => if c = 'T' ∨ c = 't' ∨ c = ' ' then readTime? rest else none

/-- Reads a date-time at the start of a text. -/
def readDateTime? (text : List Char) : Option (DateTime × List Char) :=
  match readDate? text with
  | none => (readTime? text).map fun (time, rest) => (.time time, rest)
  | some (date, rest) =>
    match readTimeAfterDate? rest with
    | none => some (.date date, rest)
    | some (time, rest) =>
      match readOffset? rest with
      | none => some (.both date time, rest)
      | some (offset, rest) => some (.offset date time offset, rest)

/-- The date-time that a whole text describes. -/
def DateTime.ofText? (text : String) : Option DateTime :=
  match readDateTime? text.toList with
  | some (value, []) => some value
  | _ => none

end PresetCompiler.Toml

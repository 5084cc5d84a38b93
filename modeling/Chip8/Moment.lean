import Chip8.Decimal.Reader

/-!
# Moment — dates and times

`Moment.ofChars?` reads a day, or a moment of it with an optional distance from the prime meridian,
and `Moment.problem?` says why no calendar has it.  Two moments with a distance are the same if they
are the same instant.
-/

namespace Chip8

/-- A day, or a moment of it with its distance from the prime meridian in minutes. -/
structure Moment where
  year : Nat
  month : Nat
  day : Nat
  time : Option (Nat × Nat × Nat)
  micros : Nat
  offset : Option Int
  deriving DecidableEq, Repr

namespace Moment

/-- A number of `least` to `most` digits in front of a text, and the rest of it. -/
def digits (least most : Nat) (s : List Char) : Option (Nat × List Char) :=
  let run := (s.take most).takeWhile Char.isDigit
  if run.length < least then none
  else some (Decimal.ofDigits 10 (run.map Decimal.digitValue), s.drop run.length)

/-- The text behind a character. -/
def after (mark : Char) : List Char → Option (List Char)
  | c :: rest => if c = mark then some rest else none
  | [] => none

/-- The microseconds of a fraction of a second. -/
def fraction (s : List Char) : Nat :=
  let six := s.take 6
  Decimal.ofDigits 10 ((six ++ List.replicate (6 - six.length) '0').map Decimal.digitValue)

/-- The distance from the prime meridian at the end of a moment. -/
def offset? (s : List Char) : Option (Option Int) :=
  match s.dropWhile fun c => c == ' ' || c == '\t' with
  | [] => if s.isEmpty then some none else none
  | ['Z'] => some (some 0)
  | sign :: rest =>
    if sign = '+' ∨ sign = '-' then do
      let (hours, rest) ← digits 1 2 rest
      let minutes ← match rest with
        | [] => some 0
        | rest => do
          let (minutes, rest) ← digits 2 2 (← after ':' rest)
          if rest.isEmpty then some minutes else none
      let total : Int := hours * 60 + minutes
      return some (if sign = '-' then -total else total)
    else none

/-- The time of day that a text gives behind a day: nothing for a day alone. -/
def time? (s : List Char) : Option (Option (Nat × Nat × Nat) × Nat × Option Int) :=
  match s with
  | [] => some (none, 0, none)
  | mark :: _ => do
    let wide (c : Char) : Bool := c == ' ' || c == '\t'
    let rest := if mark = 'T' ∨ mark = 't' then s.drop 1 else s.dropWhile wide
    if rest.length = s.length then none
    else
      let (hour, rest) ← digits 1 2 rest
      let (minute, rest) ← digits 2 2 (← after ':' rest)
      let (second, rest) ← digits 2 2 (← after ':' rest)
      let (micros, rest) := match rest with
        | '.' :: rest => (fraction (rest.takeWhile Char.isDigit), rest.dropWhile Char.isDigit)
        | rest => (0, rest)
      return (some (hour, minute, second), micros, ← offset? rest)

/-- The moment that a text gives. -/
def ofLine? (s : List Char) : Option Moment := do
  let (year, rest) ← digits 4 4 s
  let (month, rest) ← digits 1 2 (← after '-' rest)
  let (day, rest) ← digits 1 2 (← after '-' rest)
  let (time, micros, offset) ← time? rest
  return { year, month, day, time, micros, offset }

/-- The moment that a text gives; a line feed at its end does not count. -/
def ofChars? (s : List Char) : Option Moment :=
  ofLine? (if s.getLast? = some '\n' then s.dropLast else s)

/-- Whether a word is a date by its form: a day alone has two digits for month and day. -/
def isWord (s : List Char) : Bool :=
  match ofLine? s with
  | some m => m.time.isSome || s.length == 10
  | none => false

/-! ## The calendar -/

/-- Whether a year has a leap day. -/
def isLeap (year : Nat) : Bool := year % 4 == 0 && (year % 100 != 0 || year % 400 == 0)

/-- The number of days of a month. -/
def monthLength (year month : Nat) : Nat :=
  if month = 2 then (if isLeap year then 29 else 28)
  else if month = 4 ∨ month = 6 ∨ month = 9 ∨ month = 11 then 30
  else 31

/-- A number with zeros in front, of at least some width. -/
def filled (width n : Nat) : String :=
  let body := Nat.toDigits 10 n
  String.ofList (List.replicate (width - body.length) '0' ++ body)

/-- A span of minutes in words, as days and the seconds of the last day. -/
def span (minutes : Int) : String :=
  let days := minutes / 1440
  let seconds := minutes % 1440 * 60
  let parts := (if days = 0 then [] else [s!"days={days}"]) ++
    (if seconds = 0 then [] else [s!"seconds={seconds}"])
  "datetime.timedelta(" ++ (if parts.isEmpty then "0" else ", ".intercalate parts) ++ ")"

/-- What is wrong with the distance from the prime meridian, if it is none: it has to be less than a
day. -/
def offsetProblem? (m : Moment) : Option String :=
  match m.offset with
  | none => none
  | some n =>
    if n.natAbs < 1440 then none
    else some ("offset must be a timedelta strictly between -timedelta(hours=24) and " ++
      s!"timedelta(hours=24), not {span n}.")

/-- What is wrong with a moment, if it is none. -/
def problem? (m : Moment) : Option String :=
  match m.offsetProblem? with
  | some p => some p
  | none =>
    if m.year = 0 then some "year 0 is out of range"
    else if m.month = 0 ∨ m.month > 12 then some "month must be in 1..12"
    else if m.day = 0 ∨ m.day > monthLength m.year m.month then
      some "day is out of range for month"
    else match m.time with
      | none => none
      | some (hour, minute, second) =>
        if hour > 23 then some "hour must be in 0..23"
        else if minute > 59 then some "minute must be in 0..59"
        else if second > 59 then some "second must be in 0..59"
        else none

/-! ## Instants -/

/-- The number of days from the first day of the calendar. -/
def dayNumber (m : Moment) : Nat :=
  let y := m.year - 1
  let before := (List.range (m.month - 1)).foldl (fun n k => n + monthLength m.year (k + 1)) 0
  365 * y + y / 4 - y / 100 + y / 400 + before + m.day

/-- The microseconds of a moment of a given distance from the prime meridian. -/
def instant (m : Moment) (offset : Int) : Int :=
  let (hour, minute, second) := m.time.getD (0, 0, 0)
  let minutes : Int := (m.dayNumber * 24 + hour) * 60 + minute
  ((minutes - offset) * 60 + second) * 1000000 + m.micros

/-- Whether two moments are the same; those with a distance are so if they are one instant. -/
def same (a b : Moment) : Bool :=
  match a.time, b.time, a.offset, b.offset with
  | some _, some _, some m, some n => a.instant m == b.instant n
  | _, _, _, _ => a == b

/-! ## Moments in words -/

/-- The distance from the prime meridian as a sign, hours and minutes. -/
def offsetText (n : Int) : String :=
  (if n < 0 then "-" else "+") ++ filled 2 (n.natAbs / 60) ++ ":" ++ filled 2 (n.natAbs % 60)

/-- The name of the kind of a moment. -/
def kind (m : Moment) : String := if m.time.isSome then "datetime.datetime" else "datetime.date"

/-- A moment as it is shown by itself. -/
def shown (m : Moment) : String :=
  let day := s!"{filled 4 m.year}-{filled 2 m.month}-{filled 2 m.day}"
  match m.time with
  | none => day
  | some (hour, minute, second) =>
    let clock := s!" {filled 2 hour}:{filled 2 minute}:{filled 2 second}"
    let part := if m.micros = 0 then "" else "." ++ filled 6 m.micros
    day ++ clock ++ part ++ (m.offset.map offsetText).getD ""

/-- The distance from the prime meridian as it is written. -/
def writtenOffset (n : Int) : String :=
  if n = 0 then "tzinfo=datetime.timezone.utc" else s!"tzinfo=datetime.timezone({span n})"

/-- A moment as it is written inside a list or a mapping; seconds and their fractions only where
they are not zero. -/
def written (m : Moment) : String :=
  let day := [m.year, m.month, m.day].map toString
  let clock := match m.time with
    | none => []
    | some (hour, minute, second) =>
      [toString hour, toString minute] ++
        (if second = 0 ∧ m.micros = 0 then [] else [toString second]) ++
        (if m.micros = 0 then [] else [toString m.micros])
  let zone := (m.offset.map fun n => [writtenOffset n]).getD []
  m.kind ++ "(" ++ ", ".intercalate (day ++ clock ++ zone) ++ ")"

end Moment

end Chip8

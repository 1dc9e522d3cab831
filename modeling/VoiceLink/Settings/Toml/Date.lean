import VoiceLink.Text.Numeral

/-!
# Dates and times

A date, a time of day or both, with an offset from universal time where both are given. A reader for
the notation of TOML and the one text every such moment is written as.

A moment in a settings file becomes its text, and that is all that is asked of it. So nothing here
knows the calendar: every month is given 31 days.
-/

namespace VoiceLink

structure CalendarDate where
  year : Nat
  month : Nat
  day : Nat
  deriving DecidableEq, Repr

structure ClockTime where
  hour : Nat
  minute : Nat
  second : Nat
  nanosecond : Nat
  deriving DecidableEq, Repr

/-- An offset from universal time. -/
inductive ZoneOffset where
  | utc
  | custom (east : Bool) (hours minutes : Nat)
  deriving DecidableEq, Repr

/-- A moment as far as it is given. -/
structure Moment where
  date : Option CalendarDate
  time : Option ClockTime
  offset : Option ZoneOffset
  deriving DecidableEq, Repr

namespace Moment

/-! ## Reading -/

/-- A number of exactly `count` digits. -/
def fixed? : (count : Nat) → Nat → List Char → Option (Nat × List Char)
  | 0, n, cs => some (n, cs)
  | _ + 1, _, [] => none
  | count + 1, n, c :: cs =>
    if c.isDigit then fixed? count (10 * n + Numeral.digitValue c) cs else none

/-- The rest behind a character that has to be next. -/
def past? (c : Char) : List Char → Option (List Char)
  | [] => none
  | d :: cs => if d = c then some cs else none

def date? (cs : List Char) : Option (CalendarDate × List Char) := do
  let (year, cs) ← fixed? 4 0 cs
  let cs ← past? '-' cs
  let (month, cs) ← fixed? 2 0 cs
  let cs ← past? '-' cs
  let (day, cs) ← fixed? 2 0 cs
  if 1 ≤ month ∧ month ≤ 12 ∧ 1 ≤ day ∧ day ≤ 31 then some ({ year, month, day }, cs) else none

/-- The nanoseconds that decimals of a second stand for; digits after the ninth are dropped. -/
def nanoseconds (digits : List Char) : Nat :=
  let kept := digits.take 9
  Numeral.ofDigits kept * Nat.pow 10 (9 - kept.length)

/-- Decimals of a second, if there are any. -/
def fraction? : List Char → Option (Nat × List Char)
  | '.' :: cs =>
    let digits := cs.takeWhile Char.isDigit
    if digits.isEmpty then none else some (nanoseconds digits, cs.dropWhile Char.isDigit)
  | cs => some (0, cs)

/-- A time of day; its seconds must be given. -/
def time? (cs : List Char) : Option (ClockTime × List Char) := do
  let (hour, cs) ← fixed? 2 0 cs
  let cs ← past? ':' cs
  let (minute, cs) ← fixed? 2 0 cs
  let cs ← past? ':' cs
  let (second, cs) ← fixed? 2 0 cs
  let (nanosecond, cs) ← fraction? cs
  if hour ≤ 24 ∧ minute ≤ 59 ∧ second ≤ 59 then some ({ hour, minute, second, nanosecond }, cs)
  else none

def offset? : List Char → Option (Option ZoneOffset × List Char)
  | [] => some (none, [])
  | 'Z' :: cs => some (some .utc, cs)
  | 'z' :: cs => some (some .utc, cs)
  | sign :: cs => do
    if sign ≠ '+' ∧ sign ≠ '-' then none
    else
      let (hours, cs) ← fixed? 2 0 cs
      let cs ← past? ':' cs
      let (minutes, cs) ← fixed? 2 0 cs
      some (some (.custom (sign = '+') hours minutes), cs)

/-- Whether a text starts like a time of day. -/
def startsWithTime : List Char → Bool
  | _ :: _ :: c :: _ => c = ':'
  | _ => false

/-- The moment a whole text stands for. -/
def ofChars? (cs : List Char) : Option Moment :=
  if utf8Short cs then none
  else if startsWithTime cs then do
    let (time, cs) ← time? cs
    if cs.isEmpty then some { date := none, time, offset := none } else none
  else do
    let (date, cs) ← date? cs
    match cs with
    | c :: rest =>
      -- an offset is read only behind a time that has a date
      if c = 'T' ∨ c = 't' ∨ c = ' ' then
        let (time, cs) ← time? rest
        let (offset, cs) ← offset? cs
        if cs.isEmpty then some { date, time, offset } else none
      else none
    | [] => some { date, time := none, offset := none }
where
  /-- Whether a text is too short for a moment. -/
  utf8Short (cs : List Char) : Bool := cs.length < 3

/-! ## Writing -/

def trimZeros (cs : List Char) : List Char := (cs.reverse.dropWhile (· = '0')).reverse

def dateText (d : CalendarDate) : String :=
  Numeral.padded 4 d.year ++ "-" ++ Numeral.padded 2 d.month ++ "-" ++ Numeral.padded 2 d.day

/-- The text of a time, with as many decimals of a second as are needed. -/
def timeText (t : ClockTime) : String :=
  let seconds := Numeral.padded 2 t.hour ++ ":" ++ Numeral.padded 2 t.minute ++ ":"
    ++ Numeral.padded 2 t.second
  if t.nanosecond = 0 then seconds
  else seconds ++ "." ++ String.ofList (trimZeros (Numeral.padded 9 t.nanosecond).toList)

def offsetText : ZoneOffset → String
  | .utc => "Z"
  | .custom east hours minutes =>
    (if east ∨ hours = 0 then "+" else "-")
      ++ Numeral.padded 2 hours ++ ":" ++ Numeral.padded 2 minutes

def text (m : Moment) : String :=
  let date := (m.date.map dateText).getD ""
  let time := (m.time.map timeText).getD ""
  let offset := (m.offset.map offsetText).getD ""
  date ++ (if m.date.isSome ∧ m.time.isSome then "T" else "") ++ time ++ offset

end Moment

end VoiceLink

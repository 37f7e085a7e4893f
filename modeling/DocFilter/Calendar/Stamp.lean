import DocFilter.Calendar.Date
import DocFilter.Number.Numeral

/-! # Reading moments

A stamp such as `2020-02-29T12:34:56.789+01:00` names a moment: a date, a time of day and the offset
of that time from universal time, `Z` for none.  Any ASCII character may stand between the date and
the time.  `Stamp.read?` reads one, and `Stamp.millis?` is the moment that it names.

A second numbered 60 is a leap second.  It may only follow the last second of a month in universal
time, and counts as the end of that second. -/

namespace DocFilter.Calendar

structure Stamp where
  date : Date
  hour : Nat
  minute : Nat
  second : Nat
  /-- Billionths of a second. -/
  nanosecond : Nat
  /-- Minutes that the time is ahead of universal time. -/
  offset : Int
deriving DecidableEq, Repr

namespace Stamp

/-! ### Parts -/

/-- Exactly `width` digits, and what follows them. -/
def number? (width : Nat) (cs : List Char) : Option (Nat × List Char) := do
  let digits ← (cs.take width).mapM digit?
  if digits.length = width then some (ofDigits digits, cs.drop width) else none

/-- What follows the given character. -/
def after? (c : Char) : List Char → Option (List Char)
  | d :: rest => if d = c then some rest else none
  | [] => none

/-- What follows the character between the date and the time. -/
def afterSeparator? : List Char → Option (List Char)
  | c :: rest => if c.toNat < 128 then some rest else none
  | [] => none

/-- Billionths behind a point, or none.  Digits after the ninth do not count. -/
def fraction? : List Char → Option (Nat × List Char)
  | '.' :: rest =>
    match spanDigits rest with
    | ([], _) => none
    | (digits, rest) => some (ofDigits (digits.take 9) * Nat.pow 10 (9 - digits.length), rest)
  | rest => some (0, rest)

/-- The offset in minutes, up to the end. -/
def offset? : List Char → Option Int
  | ['Z'] | ['z'] => some 0
  | sign :: rest => do
    let (hours, rest) ← number? 2 rest
    let rest ← after? ':' rest
    let (minutes, rest) ← number? 2 rest
    let total : Nat := 60 * hours + minutes
    if 23 < hours ∨ 59 < minutes ∨ rest ≠ [] then none
    else if sign = '+' then some total
    else if sign = '-' then some (-(total : Int))
    else none
  | [] => none

/-! ### Stamps -/

/-- Whether the parts are those of a date and a time of day. -/
def isValid (s : Stamp) : Bool :=
  s.date.isValid && s.hour < 24 && s.minute < 60 && s.second ≤ 60

/-- The stamp that a whole text denotes. -/
def read? (text : String) : Option Stamp := do
  let (year, cs) ← number? 4 text.toList
  let (month, cs) ← number? 2 (← after? '-' cs)
  let (day, cs) ← number? 2 (← after? '-' cs)
  let (hour, cs) ← number? 2 (← afterSeparator? cs)
  let (minute, cs) ← number? 2 (← after? ':' cs)
  let (second, cs) ← number? 2 (← after? ':' cs)
  let (nanosecond, cs) ← fraction? cs
  let offset ← offset? cs
  let stamp : Stamp := ⟨⟨year, month, day⟩, hour, minute, second, nanosecond, offset⟩
  if stamp.isValid then some stamp else none

/-- Seconds since the start of 1970 in universal time, up to the start of a second of the minute. -/
def secondsTo (s : Stamp) (second : Nat) : Int :=
  (s.date.toDays * 1440 + (60 * s.hour + s.minute : Nat) - s.offset) * 60 + second

/-- Whether a month starts so many seconds after the start of 1970. -/
def startsMonth (seconds : Int) : Bool :=
  seconds.fmod 86400 == 0 && (Date.ofDays (seconds.fdiv 86400)).day == 1

/-- Milliseconds since the start of 1970.  What is smaller than a millisecond is cut off towards
that start. -/
def millis? (s : Stamp) : Option Int :=
  if s.second < 60 then
    some ((s.secondsTo s.second * Int.pow 10 9 + s.nanosecond).tdiv (Int.pow 10 6))
  else if startsMonth (s.secondsTo 60) then
    some ((s.secondsTo 60 * Int.pow 10 9 - 1).tdiv (Int.pow 10 6))
  else none

end Stamp

/-- The milliseconds since the start of 1970 that a stamp names. -/
def readMoment? (text : String) : Option Int := (Stamp.read? text).bind Stamp.millis?

end DocFilter.Calendar

import DocFilter.Calendar.Date
import DocFilter.Number.Notation

/-! # Moments as texts

Milliseconds since the start of 1970 as a date and a time of day in universal time. -/

namespace DocFilter.Calendar

/-- `n` with zeros before it, at least `width` digits. -/
def padded (width n : Nat) : String :=
  let digits := toString n
  Double.zeros (width - digits.length) ++ digits

/-- At least four digits; a sign before negative years and before those above 9999. -/
def yearText (year : Int) : String :=
  let sign := if year < 0 then "-" else if 9999 < year then "+" else ""
  sign ++ padded 4 year.natAbs

/-- Thousandths without trailing zeros, at least one digit. -/
def fractionText (millis : Nat) : String :=
  match ((padded 3 millis).toList.reverse.dropWhile (· == '0')).reverse with
  | [] => "0"
  | digits => String.ofList digits

/-- The text of a moment.  The years of six digits and fewer are written out, all others leave the
milliseconds as they are. -/
def momentText (millis : Int) : String :=
  let date := Date.ofDays (millis.fdiv 86400000)
  let time := (millis.fmod 86400000).toNat
  if date.year.natAbs ≤ 999999 then
    yearText date.year ++ "-" ++ padded 2 date.month ++ "-" ++ padded 2 date.day ++ " " ++
      toString (time / 3600000) ++ ":" ++ padded 2 (time / 60000 % 60) ++ ":" ++
      padded 2 (time / 1000 % 60) ++ "." ++ fractionText (time % 1000) ++ " +00:00:00"
  else toString millis

end DocFilter.Calendar

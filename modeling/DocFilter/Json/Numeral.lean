import DocFilter.Json.Basic
import DocFilter.Number.Numeral

/-! # Numbers in JSON texts

A numeral is digits, with a sign, a fraction or an exponent where they are written.  Whole numbers
that fit in 64 bits are exact.  All others are doubles: as many leading digits as fit in 64 bits
make a significand, which is rounded to a double and then multiplied or divided by a power of ten,
with one more rounding.  The result can miss the nearest double in the last place. -/

namespace DocFilter.Json

structure Numeral where
  negative : Bool
  whole : List Nat
  fraction : Option (List Nat)
  /-- Whether the exponent is negative, and its digits. -/
  exponent : Option (Bool × List Nat)
deriving DecidableEq, Repr

namespace Numeral

/-- At least one digit. -/
def digits? (cs : List Char) : Option (List Nat × List Char) :=
  match spanDigits cs with
  | ([], _) => none
  | r => some r

/-- The fraction that follows a point. -/
def fraction? : List Char → Option (Option (List Nat) × List Char)
  | '.' :: cs => (digits? cs).map fun (digits, rest) => (some digits, rest)
  | cs => some (none, cs)

/-- The exponent that follows a letter e. -/
def exponent? : List Char → Option (Option (Bool × List Nat) × List Char)
  | c :: cs =>
    if c = 'e' ∨ c = 'E' then
      let (negative, cs) :=
        match cs with
        | '+' :: r => (false, r)
        | '-' :: r => (true, r)
        | r => (false, r)
      (digits? cs).map fun (digits, rest) => (some (negative, digits), rest)
    else some (none, c :: cs)
  | [] => some (none, [])

/-- The numeral at the front.  A zero in front of other digits is no numeral. -/
def read? (cs : List Char) : Option (Numeral × List Char) := do
  let (negative, cs) :=
    match cs with
    | '-' :: r => (true, r)
    | r => (false, r)
  let (whole, cs) ← digits? cs
  if whole.length > 1 ∧ whole.head? = some 0 then none
  else
    let (fraction, cs) ← fraction? cs
    let (exponent, cs) ← exponent? cs
    return ({ negative, whole, fraction, exponent }, cs)

/-! ### The value of a numeral -/

/-- Takes in digits as long as the number fits in 64 bits; the number and the digits left over. -/
def accumulate (n : Nat) : List Nat → Nat × List Nat
  | [] => (n, [])
  | d :: rest => if 10 * n + d < Nat.pow 2 64 then accumulate (10 * n + d) rest else (n, d :: rest)

/-- The double nearest to a power of ten. -/
def tenTo (n : Nat) : Nat := Double.ofRatio (Nat.pow 10 n) 1

/-- Multiplies a magnitude by a power of ten, or divides it by one, in steps of at most
`10 ^ 308`.  Any significand is zero after two steps down. -/
def scaled : Nat → Nat → Int → Option Nat
  | 0, _, _ => some 0
  | steps + 1, magnitude, exponent =>
    if exponent.natAbs ≤ 308 then
      if 0 ≤ exponent then
        let result := Double.product magnitude (tenTo exponent.natAbs)
        if result = Double.infinityMagnitude then none else some result
      else some (Double.quotient magnitude (tenTo exponent.natAbs))
    else if magnitude = 0 then some 0
    else if 0 ≤ exponent then none
    else scaled steps (Double.quotient magnitude (tenTo 308)) (exponent + 308)

/-- The magnitude of `significand * 10 ^ exponent`. -/
def magnitude? (significand : Nat) (exponent : Int) : Option Nat :=
  scaled 4 (Double.ofRatio significand 1) exponent

/-- A numeral as a double. -/
def float (n : Numeral) : Json :=
  let (whole, beyond) := accumulate 0 n.whole
  let fraction := n.fraction.getD []
  let (significand, unused) := accumulate whole fraction
  let start : Int := beyond.length - (fraction.length - unused.length)
  let magnitude :=
    match n.exponent with
    | none => magnitude? significand start
    | some (down, digits) =>
      let e := ofDigits digits
      if e < Nat.pow 2 31 then magnitude? significand (if down then start - e else start + e)
      else if significand = 0 ∨ down then some 0
      else none
  match magnitude with
  | some m => .float (Double.ofMagnitude n.negative m)
  | none => .noValue

/-- Whole numbers from `-2 ^ 63` to `2 ^ 64 - 1` are exact, but minus zero is a double. -/
def value (n : Numeral) : Json :=
  let whole := ofDigits n.whole
  if n.fraction.isSome ∨ n.exponent.isSome then n.float
  else if n.negative then
    if 0 < whole ∧ whole ≤ Nat.pow 2 63 then .int (-whole) else n.float
  else if whole < Nat.pow 2 64 then .int whole
  else n.float

end Numeral
end DocFilter.Json

import DocFilter.Number.Notation
import DocFilter.Number.Numeral
import DocFilter.Text.Utf8

/-! # 128-bit decimal numbers

Sixteen bytes, the least significant first: a sign, a combination field and a coefficient.  The
number is `coefficient * 10 ^ exponent`; `text` writes it with all its digits, also zeros at the
end, and `read?` takes a numeral as it is written.  A numeral is never rounded: one with more than
34 digits, or with an exponent out of range, is read only if zeros make up for it. -/

namespace DocFilter

structure Decimal128 where
  bytes : List UInt8
  length_bytes : bytes.length = 16
deriving DecidableEq, Repr

namespace Decimal128

/-- The decimal with the given bytes, if there are sixteen. -/
def ofBytes? (bytes : List UInt8) : Option Decimal128 :=
  if h : bytes.length = 16 then some ⟨bytes, h⟩ else none

/-- The decimal with the given bits. -/
def ofWord (word : Nat) : Decimal128 := ⟨littleEndian 16 word, length_littleEndian 16 word⟩

/-! ### Writing -/

/-- What the bits stand for, apart from the sign. -/
inductive Reading where
  | notANumber
  | infinity
  | finite (coefficient : Nat) (exponent : Int)
deriving DecidableEq, Repr

/-- The 128 bits as a number. -/
def word (d : Decimal128) : Nat := ofLittleEndian d.bytes

def isNegative (d : Decimal128) : Bool := d.word.testBit 127

/-- A coefficient of more than 34 digits counts as zero; so does every one in the form whose
combination field starts with two ones, where its leading bits are `100`. -/
def reading (d : Decimal128) : Reading :=
  let combination := d.word / Nat.pow 2 122 % 32
  let exponent (n : Nat) : Int := (n % Nat.pow 2 14 : Nat) - 6176
  if combination = 31 then .notANumber
  else if combination = 30 then .infinity
  else if 24 ≤ combination then .finite 0 (exponent (d.word / Nat.pow 2 111))
  else
    let coefficient := d.word % Nat.pow 2 113
    .finite (if Nat.pow 10 34 ≤ coefficient then 0 else coefficient)
      (exponent (d.word / Nat.pow 2 113))

/-- Plain notation for exponents of at most zero, as long as at most five zeros follow the point;
scientific notation with a signed exponent for all others. -/
def text (d : Decimal128) : String :=
  let sign := if d.isNegative then "-" else ""
  match d.reading with
  | .notANumber => "NaN"
  | .infinity => sign ++ "Infinity"
  | .finite coefficient exponent =>
    let digits := toString coefficient
    let adjusted := exponent + digits.length - 1
    if exponent ≤ 0 ∧ -6 ≤ adjusted then
      sign ++ (Double.Decimal.mk coefficient exponent).positional
    else
      let (lead, fraction) := Double.splitAt digits (digits.length - 1)
      let point := if fraction.isEmpty then "" else "." ++ fraction
      sign ++ lead ++ point ++ "E" ++ (if 0 < adjusted then "+" else "") ++ toString adjusted

/-! ### Reading -/

def minExponent : Int := -6176

def maxExponent : Int := 6111

def maxDigits : Nat := 34

/-- Takes digits off the end down to `count`, if only zeros go. -/
def shorten? (digits : List Char) (count : Nat) : Option (List Char) :=
  if (digits.drop count).all (· == '0') then some (digits.take count) else none

/-- As many digits as there is room for, with the exponent that makes up for those that go. -/
def fitLength? (digits : List Char) (exponent : Int) : Option (List Char × Int) := do
  let excess := digits.length - maxDigits
  if excess < Nat.pow 2 15 ∧ exponent + excess < Int.pow 2 15 then
    return (← shorten? digits (digits.length - excess), exponent + excess)
  else none

/-- Digits with an exponent within bounds.  Zero takes the nearest one. -/
def fitExponent? (digits : List Char) (exponent : Int) : Option (List Char × Int) := do
  if exponent < minExponent then
    let missing := (minExponent - exponent).toNat
    if digits = ['0'] then some (digits, minExponent)
    else if digits.length < missing then none
    else return (← shorten? digits (digits.length - missing), minExponent)
  else if maxExponent < exponent then
    let excess := (exponent - maxExponent).toNat
    if digits = ['0'] then some (digits, maxExponent)
    else if maxDigits < digits.length + excess then none
    else some (digits ++ List.replicate excess '0', maxExponent)
  else some (digits, exponent)

/-- The exponent behind the letter e, within 16 bits. -/
def readExponent? : List Char → Option Int
  | [] => some 0
  | _ :: cs => readInt? (Nat.pow 2 15 - 1) (String.ofList cs)

/-- The bits of an unsigned numeral in lower case: digits with at most one point and an exponent.
No digit at all counts as zero. -/
def readFinite? (cs : List Char) : Option Nat := do
  let (significand, rest) := cs.span (· ≠ 'e')
  let exponent ← readExponent? rest
  let (whole, fraction) := significand.span (· ≠ '.')
  let fraction := fraction.drop 1
  let exponent := exponent - fraction.length
  if exponent < -Int.pow 2 15 ∨ Nat.pow 2 15 ≤ fraction.length then none
  else
    let digits := (whole ++ fraction).dropWhile (· == '0')
    let (digits, exponent) ← fitLength? (if digits.isEmpty then ['0'] else digits) exponent
    let (digits, exponent) ← fitExponent? digits exponent
    let coefficient ← (readNat (Nat.pow 10 maxDigits) (String.ofList digits)).toOption
    return (exponent - minExponent).toNat * Nat.pow 2 113 + coefficient

/-- The decimal that a text denotes: a numeral, an infinity, or a quiet or signalling NaN. -/
def read? (s : String) : Option Decimal128 := do
  let (negative, cs) :=
    match s.toList with
    | '-' :: rest => (true, rest)
    | '+' :: rest => (false, rest)
    | rest => (false, rest)
  let cs := cs.map Char.toLower
  let word := String.ofList cs
  let magnitude ←
    if word = "nan" then some (31 * Nat.pow 2 122)
    else if word = "snan" then some (31 * Nat.pow 2 122 + Nat.pow 2 121)
    else if word = "inf" ∨ word = "infinity" then some (30 * Nat.pow 2 122)
    else readFinite? cs
  return ofWord (if negative then Nat.pow 2 127 + magnitude else magnitude)

end Decimal128
end DocFilter

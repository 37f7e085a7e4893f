/-! # Hexadecimal

Two lower-case digits a byte; digits of either case are read. -/

namespace DocFilter.Text.Hex

/-- The digit of a number below sixteen. -/
def digit (n : Nat) : Char := if n < 10 then Char.ofNat (48 + n) else Char.ofNat (87 + n)

/-- The value of a digit. -/
def value? (c : Char) : Option Nat :=
  let n := c.toNat
  if 48 ≤ n ∧ n ≤ 57 then some (n - 48)
  else if 97 ≤ n ∧ n ≤ 102 then some (n - 87)
  else if 65 ≤ n ∧ n ≤ 70 then some (n - 55)
  else none

/-- The last `width` digits of a number. -/
def fixed : Nat → Nat → List Char
  | 0, _ => []
  | width + 1, n => fixed width (n / 16) ++ [digit (n % 16)]

def encodeChars (bytes : List UInt8) : List Char := bytes.flatMap fun b => fixed 2 b.toNat

def encode (bytes : List UInt8) : String := String.ofList (encodeChars bytes)

def decodeChars? : List Char → Option (List UInt8)
  | [] => some []
  | high :: low :: rest => do
    let h ← value? high
    let l ← value? low
    let bytes ← decodeChars? rest
    return UInt8.ofNat (16 * h + l) :: bytes
  | [_] => none

def decode? (s : String) : Option (List UInt8) := decodeChars? s.toList

/-- A number in hexadecimal, without leading zeros. -/
def number (n : Nat) : String :=
  match (fixed 16 n).dropWhile (· == '0') with
  | [] => "0"
  | digits => String.ofList digits

end DocFilter.Text.Hex

import DocFilter.Number.Double

/-! # Reading decimal numerals

Whole numbers within bounds, with the fault that stops a reading, and doubles, which round to the
nearest.  Only the ASCII digits count as digits, and no blanks are passed over. -/

namespace DocFilter

/-- The value of an ASCII digit. -/
def digit? (c : Char) : Option Nat :=
  if 48 ≤ c.toNat ∧ c.toNat ≤ 57 then some (c.toNat - 48) else none

theorem digit?_eq (c : Char) :
    digit? c = if c.isDigit then some (c.toNat - '0'.toNat) else none := by
  have hdigit : c.isDigit = true ↔ 48 ≤ c.toNat ∧ c.toNat ≤ 57 := Char.isDigit_iff_toNat
  have hzero : '0'.toNat = 48 := rfl
  rw [digit?, hzero]
  simp only [hdigit]

/-- Why a text is no whole number within bounds. -/
inductive NumeralFault where
  | empty
  | invalidDigit
  | tooLarge
deriving DecidableEq, Repr

namespace NumeralFault

def message : NumeralFault → String
  | empty => "cannot parse integer from empty string"
  | invalidDigit => "invalid digit found in string"
  | tooLarge => "number too large to fit in target type"

end NumeralFault

/-- Reads on after `value`.  The reading stops at the first character that is no digit or that takes
the number above `bound`. -/
def readDigits (bound : Nat) : Nat → List Char → Except NumeralFault Nat
  | value, [] => .ok value
  | value, c :: rest =>
    match digit? c with
    | none => .error .invalidDigit
    | some d => if bound < 10 * value + d then .error .tooLarge
                else readDigits bound (10 * value + d) rest

/-- A number of at most `bound`: digits, after a plus sign or not. -/
def readNat (bound : Nat) (s : String) : Except NumeralFault Nat :=
  match s.toList with
  | [] => .error .empty
  | ['+'] => .error .invalidDigit
  | '+' :: digits => readDigits bound 0 digits
  | digits => readDigits bound 0 digits

/-- A number of `-(bound + 1)` to `bound`: digits, after a sign or not. -/
def readInt? (bound : Nat) (s : String) : Option Int :=
  match s.toList with
  | ['-'] => none
  | '-' :: digits => (readDigits (bound + 1) 0 digits).toOption.map fun n => -(n : Int)
  | _ => (readNat bound s).toOption.map fun n => (n : Int)

/-- The digits at the front, and the rest. -/
def spanDigits (cs : List Char) : List Nat × List Char :=
  (cs.takeWhile (digit? · |>.isSome) |>.filterMap digit?, cs.dropWhile (digit? · |>.isSome))

/-- The number that digits denote, the most significant first. -/
def ofDigits (digits : List Nat) : Nat := digits.foldl (fun n d => 10 * n + d) 0

/-- The magnitude nearest to `n * 10 ^ exponent`. -/
def Double.ofScientific (n : Nat) (exponent : Int) : Nat :=
  -- the position of the leading digit settles what lies far outside the doubles
  let lead := exponent + (toString n).length
  if n = 0 ∨ lead < -400 then 0
  else if 400 < lead then infinityMagnitude
  else ofRatio (n * Nat.pow 10 exponent.toNat) (Nat.pow 10 (-exponent).toNat)

/-- An exponent part: a letter e, a sign or none, and digits up to the end. -/
def readExponent? : List Char → Option Int
  | [] => some 0
  | e :: rest =>
    if e ≠ 'e' ∧ e ≠ 'E' then none
    else
      let (negative, rest) :=
        match rest with
        | '-' :: r => (true, r)
        | '+' :: r => (false, r)
        | r => (false, r)
      match spanDigits rest with
      | ([], _) => none
      | (digits, []) => some (if negative then -(ofDigits digits : Int) else ofDigits digits)
      | _ => none

/-- The magnitude of an unsigned numeral, which needs a digit before or after the point. -/
def Double.readMagnitude? (cs : List Char) : Option Nat := do
  let (whole, rest) := spanDigits cs
  let (fraction, rest) :=
    match rest with
    | '.' :: r => spanDigits r
    | r => ([], r)
  if whole.isEmpty ∧ fraction.isEmpty then none
  else
    let exponent ← readExponent? rest
    return Double.ofScientific (ofDigits (whole ++ fraction)) (exponent - fraction.length)

/-- A double in decimal or one of the words `inf`, `infinity` and `nan` in any case, after a sign or
not. -/
def Double.read? (s : String) : Option Double :=
  let (negative, cs) :=
    match s.toList with
    | '-' :: r => (true, r)
    | '+' :: r => (false, r)
    | r => (false, r)
  let word := String.ofList (cs.map Char.toLower)
  let magnitude :=
    if word = "inf" ∨ word = "infinity" then some Double.infinityMagnitude
    else if word = "nan" then some Double.nan.magnitude
    else Double.readMagnitude? cs
  magnitude.map (Double.ofMagnitude negative)

end DocFilter

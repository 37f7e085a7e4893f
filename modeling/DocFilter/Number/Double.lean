/-! # Binary floating-point numbers

A `Double` is the 64 bits of a binary floating-point number: a sign, eleven exponent bits and
fifty-two fraction bits.  Bits are what documents store and what canonical encodings compare, so
the type keeps them exactly, the payloads of NaNs and the sign of zero included.

`sameNumber` is equality of the numbers, which forgets the sign of zero and holds for no NaN;
`ofRatio` is the double nearest to a fraction, ties going to the even neighbour. -/

namespace DocFilter

/-- The bits of a binary floating-point number. -/
structure Double where
  bits : UInt64
deriving DecidableEq, Repr

namespace Double

/-- The bits of the double one step above the largest finite one. -/
def infinityMagnitude : Nat := 0x7ff0000000000000

/-- The double with the given sign and the given bits below it. -/
def ofMagnitude (negative : Bool) (magnitude : Nat) : Double :=
  ⟨UInt64.ofNat ((if negative then Nat.pow 2 63 else 0) + magnitude % Nat.pow 2 63)⟩

def infinity : Double := ofMagnitude false infinityMagnitude

/-- The NaN that reading a text produces. -/
def nan : Double := ofMagnitude false 0x7ff8000000000000

/-- Whether the sign bit is set, as it is in `-0.0`. -/
def isNegative (x : Double) : Bool := Nat.pow 2 63 ≤ x.bits.toNat

/-- The bits below the sign.  On numbers they order as the absolute values do. -/
def magnitude (x : Double) : Nat := x.bits.toNat % Nat.pow 2 63

def isNaN (x : Double) : Bool := infinityMagnitude < x.magnitude

def isFinite (x : Double) : Bool := x.magnitude < infinityMagnitude

/-- Equality of the numbers: the two zeros are the same number, a NaN is none. -/
def sameNumber (x y : Double) : Bool :=
  !x.isNaN && (x == y || (x.magnitude == 0 && y.magnitude == 0))

/-- The double without the sign of a negative zero. -/
def unsignedZero (x : Double) : Double := if x.magnitude = 0 then ⟨0⟩ else x

/-! ### Finite magnitudes as fractions -/

/-- A finite magnitude is `significand * 2 ^ (scale - 1074)`. -/
def significand (magnitude : Nat) : Nat :=
  if magnitude < Nat.pow 2 52 then magnitude else magnitude % Nat.pow 2 52 + Nat.pow 2 52

@[inherit_doc significand]
def scale (magnitude : Nat) : Nat := magnitude / Nat.pow 2 52 - 1

/-- Numerator over a denominator of `2 ^ 1074`. -/
def numerator (magnitude : Nat) : Nat := significand magnitude * Nat.pow 2 (scale magnitude)

/-- `numerator / denominator` rounded to an integer, a tie going to the even one. -/
def roundedQuotient (numerator denominator : Nat) : Nat :=
  let quotient := numerator / denominator
  let twice := 2 * (numerator % denominator)
  if twice < denominator then quotient
  else if denominator < twice then quotient + 1
  else quotient + quotient % 2

/-- The magnitude nearest to `num / den`, a tie going to the even one, and infinity from the
midpoint above the largest finite double on. -/
def ofRatio (num den : Nat) : Nat :=
  let scaled := num * Nat.pow 2 1074
  let whole := scaled / den
  let shift := if whole < Nat.pow 2 53 then 0 else whole.log2 - 52
  min infinityMagnitude (shift * Nat.pow 2 52 + roundedQuotient scaled (den * Nat.pow 2 shift))

/-- The magnitude nearest to the product of two finite ones. -/
def product (a b : Nat) : Nat :=
  ofRatio (numerator a * numerator b) (Nat.pow 2 1074 * Nat.pow 2 1074)

/-- The magnitude nearest to the quotient of two finite ones. -/
def quotient (a b : Nat) : Nat := ofRatio (numerator a) (numerator b)

end Double
end DocFilter

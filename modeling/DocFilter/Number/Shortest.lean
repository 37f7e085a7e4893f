import DocFilter.Number.Double

/-! # The fewest digits that read back

`shortest` writes a finite magnitude as `digits * 10 ^ exponent` with as few digits as still round
to it.  The decimal grids are tried from coarse to fine; on each, only the two neighbours of the
exact value can lie in the interval that rounds to it.  Of two neighbours inside, the nearer is
taken, and the upper one when both are equally near. -/

namespace DocFilter.Double

/-- A decimal numeral: `digits * 10 ^ exponent`. -/
structure Decimal where
  digits : Nat
  exponent : Int
deriving DecidableEq, Repr

/-- The rounding interval of a magnitude, in quarters of its unit in the last place: all that lies
between `low` and `high` rounds to the value at `mid`. -/
structure Interval where
  low : Nat
  mid : Nat
  high : Nat
  /-- The ends belong to the interval. -/
  closed : Bool
  /-- A quarter unit is `2 ^ shift / 2 ^ 1076`. -/
  shift : Nat

/-- Below a power of two the next double is half a unit away. -/
def Interval.of (magnitude : Nat) : Interval :=
  let m := significand magnitude
  let below := if m = Nat.pow 2 52 ∧ 0 < scale magnitude then 1 else 2
  ⟨4 * m - below, 4 * m, 4 * m + 2, m % 2 = 0, scale magnitude⟩

/-- The neighbour of the value on the grid of multiples of `10 ^ exponent`, if one lies in the
interval. -/
def Interval.gridPoint? (i : Interval) (exponent : Int) : Option Nat :=
  let up := Nat.pow 10 (-exponent).toNat * Nat.pow 2 i.shift
  let step := Nat.pow 10 exponent.toNat * Nat.pow 2 1076
  let inside (c : Nat) : Bool :=
    if i.closed then i.low * up ≤ c * step ∧ c * step ≤ i.high * up
    else i.low * up < c * step ∧ c * step < i.high * up
  let c := i.mid * up / step
  match inside c, inside (c + 1) with
  | true, true => some (if 2 * (i.mid * up % step) < step then c else c + 1)
  | true, false => some c
  | false, true => some (c + 1)
  | false, false => none

/-- The first grid with a point in the interval, from `10 ^ exponent` down. -/
def Interval.coarsest (i : Interval) : Nat → Int → Decimal
  | 0, _ => ⟨0, 0⟩
  | tries + 1, exponent =>
    match i.gridPoint? exponent with
    | some digits => ⟨digits, exponent⟩
    | none => i.coarsest tries (exponent - 1)

/-- The shortest numeral of a finite magnitude.  No double reaches `10 ^ 309`, and every one is a
multiple of `10 ^ -1074`. -/
def shortest (magnitude : Nat) : Decimal :=
  if magnitude = 0 then ⟨0, 0⟩ else (Interval.of magnitude).coarsest (309 + 1074 + 1) 309

end DocFilter.Double

import DocFilter.Number.Shortest

/-! # Texts of doubles

Two notations are written from the shortest digits.  `plainText` is positional throughout, without
a fraction when there is none.  `jsonText` always shows a fraction or an exponent, and turns to
scientific notation outside `10 ^ -5 ≤ x < 10 ^ 16`. -/

namespace DocFilter.Double

/-- `n` zeros. -/
def zeros (n : Nat) : String := String.ofList (List.replicate n '0')

/-- The text before and after the position of the point, `places` from the right. -/
def splitAt (digits : String) (places : Nat) : String × String :=
  let cs := digits.toList
  (String.ofList (cs.take (cs.length - places)), String.ofList (cs.drop (cs.length - places)))

/-- Positional notation of `digits * 10 ^ exponent`. -/
def Decimal.positional (d : Decimal) : String :=
  let text := toString d.digits
  let places := (-d.exponent).toNat
  if 0 ≤ d.exponent then text ++ zeros d.exponent.toNat
  else if places < text.length then
    let (whole, fraction) := splitAt text places
    whole ++ "." ++ fraction
  else "0." ++ zeros (places - text.length) ++ text

/-- Scientific notation: one digit before the point, no sign on a positive exponent. -/
def Decimal.scientific (d : Decimal) : String :=
  let text := toString d.digits
  let (lead, fraction) := splitAt text (text.length - 1)
  let point := if fraction.isEmpty then "" else "." ++ fraction
  lead ++ point ++ "e" ++ toString (d.exponent + fraction.length)

/-- Positional, with the shortest digits; `NaN` whatever its sign, `inf` and `-inf`. -/
def plainText (x : Double) : String :=
  let sign := if x.isNegative then "-" else ""
  if x.isNaN then "NaN"
  else if x.isFinite then sign ++ (shortest x.magnitude).positional
  else sign ++ "inf"

/-- The number as it stands in a JSON text; a double that is no number is written `null`. -/
def jsonText (x : Double) : String :=
  let sign := if x.isNegative then "-" else ""
  if !x.isFinite then "null"
  else
    let d := shortest x.magnitude
    -- the position of the point after the first digit
    let point := d.exponent + (toString d.digits).length
    if x.magnitude = 0 then sign ++ "0.0"
    else if 0 ≤ d.exponent ∧ point ≤ 16 then sign ++ d.positional ++ ".0"
    else if -5 < point ∧ point ≤ 16 then sign ++ d.positional
    else sign ++ d.scientific

end DocFilter.Double

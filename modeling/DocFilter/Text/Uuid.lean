import DocFilter.Text.Hex

/-! # Universally unique identifiers

Sixteen bytes in hexadecimal.  The digits stand together or in groups of 8, 4, 4, 4 and 12 with a
hyphen between them; the groups may be in braces or behind `urn:uuid:`, whose letters may be capital
ones. -/

namespace DocFilter.Text.Uuid

/-- The digits of groups of the given lengths. -/
def ungrouped? : List Nat → List Char → Option (List Char)
  | [], _ => none
  | [length], cs => if cs.length = length then some cs else none
  | length :: lengths, cs =>
    match cs.drop length with
    | '-' :: rest => (ungrouped? lengths rest).map (cs.take length ++ ·)
    | _ => none

/-- The groups without what may stand around them. -/
def bare (cs : List Char) : List Char :=
  if cs.head? = some '\x7b' ∧ cs.getLast? = some '\x7d' then cs.tail.dropLast
  else if (cs.take 9).map Char.toLower = "urn:uuid:".toList then cs.drop 9
  else cs

def decode? (s : String) : Option (List UInt8) :=
  let cs := s.toList
  if cs.length = 32 then Hex.decodeChars? cs
  else (ungrouped? [8, 4, 4, 4, 12] (bare cs)).bind Hex.decodeChars?

end DocFilter.Text.Uuid

import DocFilter.Text.CaseTable

/-! # Lower case

The lower case of a text over all of Unicode.  A character has the lower case of its run in
`lowerCaseRuns`; two need more.  The dotted capital I becomes two characters.  A capital sigma
becomes a final sigma at the end of a word: when, marks passed over, a cased character stands before
it and none after. -/

namespace DocFilter.Text

/-- Whether a code point lies in one of the ranges. -/
def inRanges (ranges : List (Nat × Nat)) (c : Char) : Bool :=
  ranges.any fun (first, last) => first ≤ c.toNat ∧ c.toNat ≤ last

/-- The lower case of a character that does not depend on its neighbours. -/
def lowerChar (c : Char) : Char :=
  match lowerCaseRuns.find? fun (first, last, step, _) =>
      first ≤ c.toNat ∧ c.toNat ≤ last ∧ (c.toNat - first) % step = 0 with
  | some (_, _, _, offset) => Char.ofNat (c.toNat + offset).toNat
  | none => c

/-- Whether the first character that is not passed over is cased. -/
def startsCased (cs : List Char) : Bool :=
  match cs.dropWhile (inRanges caseIgnorableRanges) with
  | c :: _ => inRanges casedRanges c
  | [] => false

/-- The lower case of what follows the characters `before`, nearest first. -/
def lowerAfter (before : List Char) : List Char → List Char
  | [] => []
  | c :: rest =>
    let lower :=
      if c = 'Σ' then [if startsCased before && !startsCased rest then 'ς' else 'σ']
      else if c = 'İ' then ['i', '\u0307']
      else if c.toNat < 128 then [c.toLower]
      else [lowerChar c]
    lower ++ lowerAfter (c :: before) rest

/-- The lower case of a text. -/
def lowerCase (s : String) : String := String.ofList (lowerAfter [] s.toList)

end DocFilter.Text

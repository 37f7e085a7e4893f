import DocFilter.Json.Basic
import DocFilter.Number.Notation
import DocFilter.Text.Hex

/-! # Writing JSON

The text of a value without blanks.  Quotes, backslashes and control characters are escaped, with a
letter where there is one. -/

namespace DocFilter.Json

def writeChar (c : Char) : List Char :=
  match c with
  | '"' => ['\\', '"']
  | '\\' => ['\\', '\\']
  | '\x08' => ['\\', 'b']
  | '\x0c' => ['\\', 'f']
  | '\n' => ['\\', 'n']
  | '\r' => ['\\', 'r']
  | '\t' => ['\\', 't']
  | c => if c.toNat < 0x20 then ['\\', 'u'] ++ Text.Hex.fixed 4 c.toNat else [c]

def writeText (s : String) : List Char := '"' :: s.toList.flatMap writeChar ++ ['"']

mutual
/-- A value without characters or a number is written like null. -/
def writeChars : Json → List Char
  | .null | .rawText _ | .noValue => ['n', 'u', 'l', 'l']
  | .bool true => ['t', 'r', 'u', 'e']
  | .bool false => ['f', 'a', 'l', 's', 'e']
  | .int n => (toString n).toList
  | .float x => x.jsonText.toList
  | .string s => writeText s
  | .list items => '[' :: writeItems items ++ [']']
  | .object members => '\x7b' :: writeMembers members ++ ['\x7d']

def writeItems : List Json → List Char
  | [] => []
  | [item] => item.writeChars
  | item :: rest => item.writeChars ++ ',' :: writeItems rest

def writeMembers : List (String × Json) → List Char
  | [] => []
  | [(name, value)] => writeText name ++ ':' :: value.writeChars
  | (name, value) :: rest => writeText name ++ ':' :: value.writeChars ++ ',' :: writeMembers rest
end

def write (j : Json) : String := String.ofList j.writeChars

end DocFilter.Json

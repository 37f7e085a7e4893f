import DocFilter.Text.Hex
import DocFilter.Text.LowerCase
import DocFilter.Text.UnprintableTable

/-! # Quoted texts in messages

A text between double quotes in which no character can be mistaken: quotes and backslashes are
escaped, and so is all that would not show as itself. -/

namespace DocFilter.Text

def quotedChar (c : Char) : List Char :=
  match c with
  | '\x00' => ['\\', '0']
  | '\t' => ['\\', 't']
  | '\r' => ['\\', 'r']
  | '\n' => ['\\', 'n']
  | '"' => ['\\', '"']
  | '\\' => ['\\', '\\']
  | c =>
    if inRanges unprintableRanges c then
      ['\\', 'u', '\x7b'] ++ (Hex.number c.toNat).toList ++ ['\x7d']
    else [c]

def quoted (s : String) : String :=
  String.ofList (['"'] ++ s.toList.flatMap quotedChar ++ ['"'])

end DocFilter.Text

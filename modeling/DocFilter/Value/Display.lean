import DocFilter.Calendar.Moment
import DocFilter.Text.Base64
import DocFilter.Text.Hex
import DocFilter.Value.Basic

/-! # Values as text

The text of a value for people to read.  Texts stand between quotes without escapes, so that the
text of a value need not determine it. -/

namespace DocFilter

/-- A text between double quotes. -/
def inQuotes (s : String) : String := "\"" ++ s ++ "\""

def ObjectId.text (id : ObjectId) : String := Text.Hex.encode id.bytes

def Scalar.display : Scalar → String
  | null => "null"
  | bool b => if b then "true" else "false"
  | string s => inQuotes s
  | int32 n => toString n.toInt
  | int64 n => toString n.toInt
  | double x => x.plainText
  | binary subtype bytes =>
    "Binary(0x" ++ Text.Hex.number subtype.toNat ++ ", " ++ Text.Base64.encode bytes ++ ")"
  | objectId id => "ObjectId(" ++ inQuotes id.text ++ ")"
  | datetime millis => "DateTime(" ++ inQuotes (Calendar.momentText millis.toInt) ++ ")"
  | regex pattern options => "/" ++ pattern ++ "/" ++ options
  | code source => source
  | symbol s => "Symbol(" ++ inQuotes s ++ ")"
  | timestamp time increment =>
    "Timestamp(" ++ toString time.toNat ++ ", " ++ toString increment.toNat ++ ")"
  | decimal128 d => d.text
  | dbPointer collection id => "DbPointer(" ++ collection ++ ", " ++ id.text ++ ")"
  | undefined => "undefined"
  | minKey => "MinKey"
  | maxKey => "MaxKey"

/-- Members in braces. -/
def braced : List String → String
  | [] => "\x7b\x7d"
  | members => "\x7b " ++ ", ".intercalate members ++ " \x7d"

mutual
/-- Code is shown without its scope. -/
def Value.display : Value → String
  | .scalar s => s.display
  | .array items => "[" ++ ", ".intercalate (displayItems items) ++ "]"
  | .document members => braced (displayMembers members)
  | .scopedCode source _ => source

def displayItems : List Value → List String
  | [] => []
  | value :: rest => value.display :: displayItems rest

def displayMembers : List (String × Value) → List String
  | [] => []
  | (key, value) :: rest => (inQuotes key ++ ": " ++ value.display) :: displayMembers rest
end

def Document.display (d : Document) : String := (Value.document d).display

end DocFilter

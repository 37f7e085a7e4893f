import DocFilter.Text.Hex
import DocFilter.Value.Basic

/-! # Reading object identifiers

An identifier is written as 24 hexadecimal digits.  `ObjectId.read` says what is wrong with any
other text: first that its number of bytes is odd, then which byte is no digit, then that its length
is another one. -/

namespace DocFilter

inductive ObjectIdFault where
  | wrongLength (text : String)
  /-- The character of a byte, the position of the byte and the text. -/
  | invalidCharacter (c : Char) (index : Nat) (text : String)
  /-- A fault that a caller describes. -/
  | other (description : String)
deriving DecidableEq, Repr

def ObjectIdFault.message : ObjectIdFault → String
  | wrongLength text =>
    "provided hex string representation must be exactly 12 bytes, instead got: \"" ++ text ++
      "\", length " ++ toString (utf8 text).length
  | invalidCharacter c index text =>
    "invalid character '" ++ c.toString ++ "' was found at index " ++ toString index ++
      " in the provided hex string: \"" ++ text ++ "\""
  | other description => description

namespace ObjectId

/-- A byte as the character with its code. -/
def byteChar (b : UInt8) : Char := Char.ofNat b.toNat

/-- The identifier with the given hexadecimal digits. -/
def read (s : String) : Except ObjectIdFault ObjectId :=
  let cs := (utf8 s).map byteChar
  if cs.length % 2 = 1 then .error (.wrongLength s)
  else
    match cs.zipIdx.find? fun (c, _) => (Text.Hex.value? c).isNone with
    | some (c, index) => .error (.invalidCharacter c index s)
    | none =>
      let bytes := (Text.Hex.decodeChars? cs).getD []
      if h : bytes.length = 12 then .ok ⟨bytes, h⟩ else .error (.wrongLength s)

end ObjectId
end DocFilter

import DocFilter.Value.Basic
import DocFilter.Text.Quoted

/-! # The binary form of values

A document is written as the length of all of it, its elements and a closing zero byte; an element
as the type byte of its value, its key and the body of the value.  Keys, and the two parts of a
regular expression, are written up to a zero byte, so none may contain U+0000; all other texts carry
their length.  Lengths are written in 32 bits.

`Value.encode` is the element of a value without its key: the type byte and the body.  It is taken
out of the document that holds the value under the empty key, where it is always found whole
(`Value.encode_eq`). -/

namespace DocFilter

/-- A text that had to be written up to a zero byte contains one. -/
structure EncodingError where
  text : String
deriving DecidableEq, Repr

def EncodingError.message (e : EncodingError) : String :=
  "cstrings cannot contain null bytes: " ++ Text.quoted e.text

/-- Bytes, or the first text that cannot be written. -/
abbrev Encoded := Except EncodingError (List UInt8)

/-! ### Texts -/

def hasNul (s : String) : Bool := s.toList.contains '\x00'

/-- A text up to a zero byte. -/
def terminated (s : String) : Encoded :=
  if hasNul s then .error ⟨s⟩ else .ok (utf8 s ++ [0])

/-- A text with its length, the zero byte behind it included. -/
def sized (s : String) : List UInt8 :=
  littleEndian 4 ((utf8 s).length + 1) ++ utf8 s ++ [0]

/-- Puts a character in its place among ordered ones. -/
def insertChar (c : Char) : List Char → List Char
  | [] => [c]
  | d :: rest => if c ≤ d then c :: d :: rest else d :: insertChar c rest

/-- The characters in ascending order. -/
def sortedText (s : String) : String := String.ofList (s.toList.foldr insertChar [])

/-! ### Scalars -/

/-- Bytes with their length.  The obsolete subtype 2 repeats the length inside. -/
def binaryBody (subtype : UInt8) (bytes : List UInt8) : List UInt8 :=
  if subtype = 2 then
    littleEndian 4 (bytes.length + 4) ++ subtype :: littleEndian 4 bytes.length ++ bytes
  else littleEndian 4 bytes.length ++ subtype :: bytes

namespace Scalar

def tag : Scalar → UInt8
  | double _ => 0x01
  | string _ => 0x02
  | binary .. => 0x05
  | undefined => 0x06
  | objectId _ => 0x07
  | bool _ => 0x08
  | datetime _ => 0x09
  | null => 0x0a
  | regex .. => 0x0b
  | dbPointer .. => 0x0c
  | code _ => 0x0d
  | symbol _ => 0x0e
  | int32 _ => 0x10
  | timestamp .. => 0x11
  | int64 _ => 0x12
  | decimal128 _ => 0x13
  | minKey => 0xff
  | maxKey => 0x7f

/-- The options of a regular expression are written in ascending order. -/
def body : Scalar → Encoded
  | double x => .ok (littleEndian 8 x.bits.toNat)
  | string s | code s | symbol s => .ok (sized s)
  | binary subtype bytes => .ok (binaryBody subtype bytes)
  | objectId id => .ok id.bytes
  | bool b => .ok [if b then 1 else 0]
  | datetime n | int64 n => .ok (littleEndian 8 n.toUInt64.toNat)
  | regex pattern options => return (← terminated pattern) ++ (← terminated (sortedText options))
  | dbPointer collection id => .ok (sized collection ++ id.bytes)
  | int32 n => .ok (littleEndian 4 n.toUInt32.toNat)
  | timestamp time increment =>
    .ok (littleEndian 4 increment.toNat ++ littleEndian 4 time.toNat)
  | decimal128 d => .ok d.bytes
  | null | undefined | minKey | maxKey => .ok []

end Scalar

/-! ### Containers -/

def Value.tag : Value → UInt8
  | scalar s => s.tag
  | document _ => 0x03
  | array _ => 0x04
  | scopedCode .. => 0x0f

/-- Elements as a document: the length of the whole, the elements and a zero byte. -/
def framed (elements : List UInt8) : List UInt8 :=
  littleEndian 4 (elements.length + 5) ++ elements ++ [0]

theorem length_framed (elements : List UInt8) : (framed elements).length = elements.length + 5 := by
  simp only [framed, List.length_append, length_littleEndian, List.length_singleton]
  omega

mutual
def Value.body : Value → Encoded
  | .scalar s => s.body
  | .array items => return framed (← encodeItems 0 items)
  | .document members => return framed (← encodeMembers members)
  | .scopedCode source scope => do
    let inner := sized source ++ framed (← encodeMembers scope)
    return littleEndian 4 (inner.length + 4) ++ inner

/-- The elements of an array, whose keys are the positions. -/
def encodeItems (index : Nat) : List Value → Encoded
  | [] => .ok []
  | value :: rest => do
    let key ← terminated (toString index)
    let body ← value.body
    let others ← encodeItems (index + 1) rest
    return value.tag :: key ++ body ++ others

def encodeMembers : List (String × Value) → Encoded
  | [] => .ok []
  | (key, value) :: rest => do
    let key ← terminated key
    let body ← value.body
    let others ← encodeMembers rest
    return value.tag :: key ++ body ++ others
end

/-- The binary form of a document. -/
def Document.encode (d : Document) : Encoded := return framed (← encodeMembers d)

/-- The bytes from one position up to another, if the positions are in order and none is past the
end. -/
def slice? (start stop : Nat) (bytes : List UInt8) : Option (List UInt8) :=
  if start ≤ stop ∧ stop ≤ bytes.length then some ((bytes.take stop).drop start) else none

/-- The type byte and the body of a value, taken out of the document that holds it under the empty
key: the byte behind the length, and what lies between the end of the key and the closing zero
byte. -/
def Value.encode (v : Value) : Encoded := do
  let frame ← Document.encode [("", v)]
  return frame[4]?.getD 0 :: (slice? 6 (frame.length - 1) frame).getD []

theorem terminated_empty : terminated "" = .ok [0] := rfl

theorem Document.encode_sole (v : Value) :
    Document.encode [("", v)] = (fun body => framed (v.tag :: 0 :: body)) <$> v.body := by
  unfold Document.encode
  cases h : v.body with
  | error e => simp [encodeMembers, terminated_empty, h, bind, Except.bind, Functor.map, Except.map]
  | ok body =>
    simp [encodeMembers, terminated_empty, h, bind, Except.bind, Functor.map, Except.map, pure,
      Except.pure]

/-- The byte behind the length of a frame is the first of its elements. -/
theorem getElem?_framed (tag : UInt8) (rest : List UInt8) :
    (framed (tag :: rest))[4]? = some tag := by
  simp [framed, littleEndian]

/-- Behind the empty key a frame holds the body up to its last byte. -/
theorem slice?_framed (tag : UInt8) (body : List UInt8) :
    slice? 6 ((framed (tag :: 0 :: body)).length - 1) (framed (tag :: 0 :: body)) = some body := by
  simp [slice?, framed, littleEndian]

theorem Value.encode_eq (v : Value) : v.encode = (v.tag :: ·) <$> v.body := by
  unfold Value.encode
  rw [Document.encode_sole]
  cases v.body with
  | error e => rfl
  | ok body =>
    simp [bind, Except.bind, Functor.map, Except.map, pure, Except.pure, getElem?_framed,
      slice?_framed]

end DocFilter

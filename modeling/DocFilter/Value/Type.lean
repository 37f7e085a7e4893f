import DocFilter.Value.Basic

/-! # Types in type checks

The types that a type check can ask for.  All but `number` are types of stored values and have a
code; `number` stands for the double and the two integer types.  The obsolete types (undefined,
symbol, pointer) cannot be asked for. -/

namespace DocFilter

inductive ValueType where
  | double | string | document | array | binary | objectId | boolean | datetime | null
  | regex | code | scopedCode | int32 | timestamp | int64 | decimal128 | minKey | maxKey
  | number
deriving DecidableEq, Repr

/-- A name that no type has. -/
structure UnknownTypeAlias where
  name : String
deriving DecidableEq, Repr

def UnknownTypeAlias.message (e : UnknownTypeAlias) : String :=
  "unknown bson type alias: " ++ e.name

namespace ValueType

/-- All types, in the order of the declaration. -/
def all : List ValueType :=
  [double, string, document, array, binary, objectId, boolean, datetime, null, regex, code,
    scopedCode, int32, timestamp, int64, decimal128, minKey, maxKey, number]

/-- The types that `number` stands for. -/
def numeric : List ValueType := [double, int32, int64]

/-- The code of a type of stored values. -/
def code? : ValueType → Option Int32
  | double => some 1
  | string => some 2
  | document => some 3
  | array => some 4
  | binary => some 5
  | objectId => some 7
  | boolean => some 8
  | datetime => some 9
  | null => some 10
  | regex => some 11
  | code => some 13
  | scopedCode => some 15
  | int32 => some 16
  | timestamp => some 17
  | int64 => some 18
  | decimal128 => some 19
  | minKey => some (-1)
  | maxKey => some 127
  | number => none

/-- The type with a code. -/
def ofCode? (n : Int32) : Option ValueType := all.find? fun t => t.code? == some n

/-- The name of a type. -/
def name : ValueType → String
  | double => "double"
  | string => "string"
  | document => "object"
  | array => "array"
  | binary => "binData"
  | objectId => "objectId"
  | boolean => "bool"
  | datetime => "date"
  | null => "null"
  | regex => "regex"
  | code => "javascript"
  | scopedCode => "javascriptWithScope"
  | int32 => "int"
  | timestamp => "timestamp"
  | int64 => "long"
  | decimal128 => "decimal"
  | minKey => "minKey"
  | maxKey => "maxKey"
  | number => "number"

/-- The type with a name, letter for letter. -/
def ofName (s : String) : Except UnknownTypeAlias ValueType :=
  match all.find? fun t => t.name == s with
  | some t => .ok t
  | none => .error ⟨s⟩

def ofScalar? : Scalar → Option ValueType
  | .null => some null
  | .bool _ => some boolean
  | .string _ => some string
  | .int32 _ => some int32
  | .int64 _ => some int64
  | .double _ => some double
  | .binary .. => some binary
  | .objectId _ => some objectId
  | .datetime _ => some datetime
  | .regex .. => some regex
  | .code _ => some code
  | .timestamp .. => some timestamp
  | .decimal128 _ => some decimal128
  | .minKey => some minKey
  | .maxKey => some maxKey
  | .symbol _ | .dbPointer .. | .undefined => none

/-- The type of a value, if it can be asked for. -/
def of? : Value → Option ValueType
  | .scalar s => ofScalar? s
  | .array _ => some array
  | .document _ => some document
  | .scopedCode .. => some scopedCode

/-- Whether no stored value has the type itself. -/
def isSynthetic (t : ValueType) : Bool := t == number

/-- Whether a value of type `other` satisfies a check for `t`. -/
def accepts (t other : ValueType) : Bool :=
  if t = number then numeric.contains other else t == other

end ValueType
end DocFilter

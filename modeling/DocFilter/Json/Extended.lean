import DocFilter.Calendar.Stamp
import DocFilter.Json.Basic
import DocFilter.Text.Base64
import DocFilter.Text.Uuid
import DocFilter.Value.Document
import DocFilter.Value.Display
import DocFilter.Value.Encoding
import DocFilter.Value.ObjectId

/-! # Values as JSON

JSON has fewer kinds of values than documents.  The others are objects that a reserved key marks:
`Value.toJson` writes them, and `Value.ofJson?` reads an object up to the first reserved key, whose
operand then gives the value of the whole.  A key that is not reserved sets a member of a document.

Reading does not undo writing in all cases: a negative whole number is always read as an integer of
64 bits, and a double that is no number is written as null. -/

namespace DocFilter

/-! ### Writing -/

def ObjectId.toJson (id : ObjectId) : Json := .object [("$oid", .string id.text)]

def Scalar.toJson : Scalar → Json
  | null => .null
  | bool b => .bool b
  | string s => .string s
  | int32 n => .int n.toInt
  | int64 n => .int n.toInt
  | double x => if x.isFinite then .float x else .null
  | binary subtype bytes =>
    if subtype = 0 then .list (bytes.map fun b => .int b.toNat)
    else .object [("$binary", .object [("base64", .string (Text.Base64.encode bytes)),
      ("subType", .string (Text.Hex.encode [subtype]))])]
  | objectId id => id.toJson
  | datetime millis =>
    .object [("$date", .object [("$numberLong", .string (toString millis.toInt))])]
  | regex pattern options =>
    .object [("$regularExpression", .object [("pattern", .string pattern),
      ("options", .string options)])]
  | code source => .object [("$code", .string source)]
  | symbol s => .object [("$symbol", .string s)]
  | timestamp time increment =>
    .object [("$timestamp", .object [("t", .int time.toNat), ("i", .int increment.toNat)])]
  | decimal128 d => .object [("$numberDecimal", .string d.text)]
  | dbPointer collection id =>
    .object [("$dbPointer", .object [("$ref", .string collection), ("$id", id.toJson)])]
  | undefined => .object [("$undefined", .bool true)]
  | minKey => .object [("$minKey", .int 1)]
  | maxKey => .object [("$maxKey", .int 1)]

mutual
def Value.toJson : Value → Json
  | .scalar s => s.toJson
  | .array items => .list (toJsonItems items)
  | .document members => .object (toJsonMembers members)
  | .scopedCode source scope =>
    .object [("$code", .string source), ("$scope", .object (toJsonMembers scope))]

def toJsonItems : List Value → List Json
  | [] => []
  | value :: rest => value.toJson :: toJsonItems rest

def toJsonMembers : List (String × Value) → List (String × Json)
  | [] => []
  | (key, value) :: rest => (key, value.toJson) :: toJsonMembers rest
end

/-! ### Reading operands -/

namespace Json

def string? : Json → Option String
  | string s => some s
  | _ => none

def bool? : Json → Option Bool
  | bool b => some b
  | _ => none

/-- A whole number from zero to the bound. -/
def nat? (bound : Nat) : Json → Option Nat
  | int n => if 0 ≤ n ∧ n ≤ bound then some n.toNat else none
  | _ => none

/-- The values of exactly the given names, in their order.  The members may stand in any order, and
a list gives the values in the order of the names. -/
def fields? (names : List String) : Json → Option (List Json)
  | list items => if items.length = names.length then some items else none
  | object members =>
    if members.length = names.length then names.mapM (members.lookup ·) else none
  | _ => none

/-- Bytes as a list of numbers or as a text. -/
def bytes? : Json → Option (List UInt8)
  | list items => (items.mapM (nat? 255)).map (·.map UInt8.ofNat)
  | string s => some (utf8 s)
  | rawText bytes => some bytes
  | _ => none

def objectId? (j : Json) : Option ObjectId := do
  let s ← j.string?
  (ObjectId.read s).toOption

/-- A moment in milliseconds: as a number, as a stamp or as digits under `$numberLong`. -/
def moment? : Json → Option Int
  | int n => if -Int.pow 2 63 ≤ n ∧ n < Int.pow 2 63 then some n else none
  | string s => Calendar.readMoment? s
  | j => do
    let [millis] ← j.fields? ["$numberLong"] | none
    readInt? (Nat.pow 2 63 - 1) (← millis.string?)

/-- The keys whose operand gives the value of the whole object, apart from those for code. -/
def reservedKeys : List String :=
  ["$oid", "$symbol", "$numberInt", "$numberLong", "$numberDouble", "$numberDecimal",
    "$numberDecimalBytes", "$timestamp", "$regularExpression", "$date", "$minKey", "$maxKey",
    "$undefined", "$binary", "$uuid", "$dbPointer"]

/-- The value of an operand under a reserved key. -/
def operand? (key : String) (j : Json) : Option Scalar :=
  match key with
  | "$oid" => j.objectId?.map .objectId
  | "$symbol" => j.string?.map .symbol
  | "$numberInt" => do
    let n ← readInt? (Nat.pow 2 31 - 1) (← j.string?)
    return .int32 (Int32.ofInt n)
  | "$numberLong" => do
    let n ← readInt? (Nat.pow 2 63 - 1) (← j.string?)
    return .int64 (Int64.ofInt n)
  | "$numberDouble" => do
    let x ← Double.read? (← j.string?)
    return .double x
  | "$numberDecimal" => do
    let d ← Decimal128.read? (← j.string?)
    return .decimal128 d
  | "$numberDecimalBytes" => (j.bytes?.bind Decimal128.ofBytes?).map .decimal128
  | "$timestamp" => do
    let [t, i] ← j.fields? ["t", "i"] | none
    let time ← t.nat? (Nat.pow 2 32 - 1)
    let increment ← i.nat? (Nat.pow 2 32 - 1)
    return .timestamp (UInt32.ofNat time) (UInt32.ofNat increment)
  | "$regularExpression" => do
    let [pattern, options] ← j.fields? ["pattern", "options"] | none
    return .regex (← pattern.string?) (sortedText (← options.string?))
  | "$date" => j.moment?.map fun n => .datetime (Int64.ofInt n)
  | "$minKey" => if j.nat? 1 = some 1 then some .minKey else none
  | "$maxKey" => if j.nat? 1 = some 1 then some .maxKey else none
  | "$undefined" => if j.bool? = some true then some .undefined else none
  | "$binary" => do
    let [base64, subtype] ← j.fields? ["base64", "subType"] | none
    let bytes ← Text.Base64.decode? (← base64.string?)
    let [tag] ← Text.Hex.decode? (← subtype.string?) | none
    return .binary tag bytes
  | "$uuid" => do
    let bytes ← Text.Uuid.decode? (← j.string?)
    return .binary 4 bytes
  | "$dbPointer" => do
    let [collection, id] ← j.fields? ["$ref", "$id"] | none
    let [digits] ← id.fields? ["$oid"] | none
    return .dbPointer (← collection.string?) (← digits.objectId?)
  | _ => none

end Json

/-! ### Reading values -/

/-- A whole number as an integer: one of 32 bits when it is not negative and fits. -/
def Value.ofJsonInt? (n : Int) : Option Value :=
  if 0 ≤ n ∧ n < Int.pow 2 31 then some (.int32 (Int32.ofInt n))
  else if -Int.pow 2 63 ≤ n ∧ n < Int.pow 2 63 then some (.int64 (Int64.ofInt n))
  else none

/-- Code with a scope, which has to be a plain document. -/
def Value.scopedCode? (source : Json) (scope : Option Value) : Option Value :=
  match source.string?, scope with
  | some source, some (.document d) => some (.scopedCode source d)
  | _, _ => none

mutual
def Value.ofJson? : Json → Option Value
  | .null => some .null
  | .bool b => some (.bool b)
  | .int n => Value.ofJsonInt? n
  | .float x => some (.double x)
  | .string s => some (.string s)
  | .list items => (ofJsonItems? items).map .array
  | .object members => ofJsonMembers? [] members
  | .rawText _ | .noValue => none

def ofJsonItems? : List Json → Option (List Value)
  | [] => some []
  | item :: rest => do
    let value ← Value.ofJson? item
    let values ← ofJsonItems? rest
    return value :: values

/-- Reads on after the members that are already set.  A reserved key has to be the last one, but
for code and its scope, which follow each other. -/
def ofJsonMembers? (set : Document) : List (String × Json) → Option Value
  | [] => some (.document set)
  | [("$code", source)] => source.string?.map fun s => .scalar (.code s)
  | [("$code", source), ("$scope", scope)] => Value.scopedCode? source (Value.ofJson? scope)
  | [("$scope", scope), ("$code", source)] => Value.scopedCode? source (Value.ofJson? scope)
  | (key, item) :: rest =>
    if key = "$code" ∨ key = "$scope" then none
    else if Json.reservedKeys.contains key then
      if rest.isEmpty then (item.operand? key).map .scalar else none
    else do
      let value ← Value.ofJson? item
      ofJsonMembers? (Document.insert key value set) rest
end

/-- How deep the containers of a text may be nested. -/
def Json.depthBound : Nat := 127

/-- The document that a JSON value denotes, if it is one that is not nested too deep. -/
def Document.ofJson? (j : Json) : Option Document :=
  if j.depth ≤ Json.depthBound then (Value.ofJson? j).bind Value.asDocument? else none

end DocFilter

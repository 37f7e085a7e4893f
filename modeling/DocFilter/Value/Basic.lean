import DocFilter.Number.Decimal128

/-! # Values

What a field of a document can hold.  A `Value` is a scalar or one of three containers: an array, a
document, or a piece of code with the document that binds its variables.  Scalars hold no other
value, so that recursion on values has four cases.

Doubles are bits and options of regular expressions are kept as given: two values are equal exactly
when nothing tells them apart. -/

namespace DocFilter

/-- The identifier of a document, twelve bytes. -/
structure ObjectId where
  bytes : List UInt8
  length_bytes : bytes.length = 12
deriving DecidableEq, Repr

/-- A value that holds no other value. -/
inductive Scalar where
  | null
  | bool (b : Bool)
  | string (s : String)
  | int32 (n : Int32)
  | int64 (n : Int64)
  | double (x : Double)
  | binary (subtype : UInt8) (bytes : List UInt8)
  | objectId (id : ObjectId)
  /-- A moment, in milliseconds since the start of 1970. -/
  | datetime (millis : Int64)
  | regex (pattern options : String)
  | code (source : String)
  | symbol (s : String)
  | timestamp (time increment : UInt32)
  | decimal128 (d : Decimal128)
  | dbPointer (collection : String) (id : ObjectId)
  | undefined
  | minKey
  | maxKey
deriving DecidableEq, Repr

inductive Value where
  | scalar (s : Scalar)
  | array (items : List Value)
  | document (members : List (String × Value))
  | scopedCode (source : String) (scope : List (String × Value))
deriving Repr

/-- The members of a document in order.  Documents that are read have each key once; nothing here
depends on it unless a statement says so. -/
abbrev Document := List (String × Value)

namespace Value

@[match_pattern] abbrev null : Value := .scalar .null
@[match_pattern] abbrev bool (b : Bool) : Value := .scalar (.bool b)
@[match_pattern] abbrev string (s : String) : Value := .scalar (.string s)
@[match_pattern] abbrev int32 (n : Int32) : Value := .scalar (.int32 n)
@[match_pattern] abbrev int64 (n : Int64) : Value := .scalar (.int64 n)
@[match_pattern] abbrev double (x : Double) : Value := .scalar (.double x)
@[match_pattern] abbrev objectId (id : ObjectId) : Value := .scalar (.objectId id)
@[match_pattern] abbrev regex (pattern options : String) : Value := .scalar (.regex pattern options)

instance : Inhabited Value := ⟨null⟩

end Value

/-! ### Equality -/

mutual
def Value.decEq : (a b : Value) → Decidable (a = b)
  | .scalar s, .scalar t => decidable_of_iff (s = t) (by simp)
  | .array as, .array bs =>
    match decEqItems as bs with
    | isTrue h => isTrue (h ▸ rfl)
    | isFalse h => isFalse fun e => h (Value.array.inj e)
  | .document as, .document bs =>
    match decEqMembers as bs with
    | isTrue h => isTrue (h ▸ rfl)
    | isFalse h => isFalse fun e => h (Value.document.inj e)
  | .scopedCode c as, .scopedCode d bs =>
    match decEqMembers as bs with
    | isTrue h => decidable_of_iff (c = d) (by simp [h])
    | isFalse h => isFalse fun e => h (Value.scopedCode.inj e).2
  | .scalar _, .array _ | .scalar _, .document _ | .scalar _, .scopedCode _ _
  | .array _, .scalar _ | .array _, .document _ | .array _, .scopedCode _ _
  | .document _, .scalar _ | .document _, .array _ | .document _, .scopedCode _ _
  | .scopedCode _ _, .scalar _ | .scopedCode _ _, .array _
  | .scopedCode _ _, .document _ => isFalse nofun

def decEqItems : (as bs : List Value) → Decidable (as = bs)
  | [], [] => isTrue rfl
  | a :: as, b :: bs =>
    match Value.decEq a b, decEqItems as bs with
    | isTrue h, isTrue t => isTrue (h ▸ t ▸ rfl)
    | isFalse h, _ => isFalse fun e => h (List.cons.inj e).1
    | _, isFalse t => isFalse fun e => t (List.cons.inj e).2
  | [], _ :: _ | _ :: _, [] => isFalse nofun

def decEqMembers : (as bs : List (String × Value)) → Decidable (as = bs)
  | [], [] => isTrue rfl
  | (j, a) :: as, (k, b) :: bs =>
    match Value.decEq a b, decEqMembers as bs with
    | isTrue h, isTrue t => decidable_of_iff (j = k) (by simp [h, t])
    | isFalse h, _ => isFalse fun e => h (Prod.mk.inj (List.cons.inj e).1).2
    | _, isFalse t => isFalse fun e => t (List.cons.inj e).2
  | [], _ :: _ | _ :: _, [] => isFalse nofun
end

instance : DecidableEq Value := Value.decEq

end DocFilter

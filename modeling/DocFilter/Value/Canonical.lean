import DocFilter.Value.Encoding

/-! # Comparing values by their bytes

The canonical bytes of a value are its binary form.  They order bytewise, a proper beginning before
what it begins, and values follow their bytes: `Value.compare` puts the values without a binary form
before all others, and `Value.equal` falls back to equality part by part for them.  The order is
that of bytes, not one of numbers or of types. -/

namespace DocFilter

structure CanonicalBytes where
  bytes : List UInt8
deriving DecidableEq, Repr

/-- The first byte that differs decides; a proper beginning comes first. -/
def bytesLess : List UInt8 → List UInt8 → Bool
  | a :: as, b :: bs => if a = b then bytesLess as bs else a < b
  | [], _ :: _ => true
  | _, [] => false

/-- The order in which the left side comes later. -/
def bytesGreater (as bs : List UInt8) : Bool := bytesLess bs as

def fingerprintBasis : UInt64 := 0xcbf29ce484222325

def fingerprintPrime : UInt64 := 0x100000001b3

/-- Takes one more byte into a fingerprint. -/
def fingerprintStep (hash : UInt64) (byte : UInt8) : UInt64 :=
  (hash ^^^ byte.toUInt64) * fingerprintPrime

/-- A digest of 64 bits over every byte. -/
def fingerprint (bytes : List UInt8) : UInt64 := bytes.foldl fingerprintStep fingerprintBasis

namespace CanonicalBytes

def encode (v : Value) : Except EncodingError CanonicalBytes := return ⟨← v.encode⟩

def length (c : CanonicalBytes) : Nat := c.bytes.length

def isEmpty (c : CanonicalBytes) : Bool := c.bytes.isEmpty

def less (a b : CanonicalBytes) : Bool := bytesLess a.bytes b.bytes

def greater (a b : CanonicalBytes) : Bool := bytesGreater a.bytes b.bytes

def compare (a b : CanonicalBytes) : Ordering :=
  if a.less b then .lt else if a.greater b then .gt else .eq

/-- The order is total, so that every two sequences compare. -/
def compare? (a b : CanonicalBytes) : Option Ordering := some (compare a b)

/-- The two words that stand for the bytes in a hash: a digest and the length. -/
def hashWords (c : CanonicalBytes) : UInt64 × Nat := (fingerprint c.bytes, c.length)

/-- The bytes in hexadecimal under the name of the type. -/
def text (c : CanonicalBytes) : String := "CanonicalBytes(" ++ Text.Hex.encode c.bytes ++ ")"

end CanonicalBytes

namespace Value

/-- Orders values by their canonical bytes, and those that have none first. -/
def compare (a b : Value) : Ordering :=
  match CanonicalBytes.encode a, CanonicalBytes.encode b with
  | .ok x, .ok y => x.compare y
  | .error _, .ok _ => .lt
  | .ok _, .error _ => .gt
  | .error _, .error _ => .eq

/-- Equality of the canonical bytes, which does not see the order of the options of a regular
expression.  Where a side has none, the values have to agree in every part. -/
def equal (a b : Value) : Bool :=
  match CanonicalBytes.encode a, CanonicalBytes.encode b with
  | .ok x, .ok y => x == y
  | _, _ => a == b

/-- Whether `a` may stand before `b` in ascending order. -/
def precedes (a b : Value) : Bool := compare a b ≠ .gt

/-- The values in ascending order; those that compare equal keep their order. -/
def sort (vs : List Value) : List Value := vs.mergeSort precedes

/-- The positions of the values in ascending order. -/
def sortOrder (vs : List Value) : List Nat :=
  (vs.zipIdx.mergeSort fun a b => precedes a.1 b.1).map (·.2)

/-- The different canonical bytes among the values. -/
def distinctEncodings (vs : List Value) : List CanonicalBytes :=
  (vs.filterMap fun v => (CanonicalBytes.encode v).toOption).eraseDups

end Value
end DocFilter

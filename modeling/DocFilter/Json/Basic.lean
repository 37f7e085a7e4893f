import DocFilter.Number.Double

/-! # JSON

The values that a JSON text denotes.  Numbers without a fraction and an exponent are whole as long
as they fit in 64 bits; members of objects keep their order, and a repeated name is not merged. -/

namespace DocFilter

inductive Json where
  | null
  | bool (b : Bool)
  | int (n : Int)
  | float (x : Double)
  | string (s : String)
  | list (items : List Json)
  | object (members : List (String × Json))
  /-- A text that is no string: half of a surrogate pair is in it, or a control character that is
  not escaped.  These are its bytes, with a half written as a character of its code would be. -/
  | rawText (bytes : List UInt8)
  /-- What is well-formed but denotes nothing: a number beyond all doubles, an object with half of a
  surrogate pair in a name.  It can be passed over, not read. -/
  | noValue
deriving Repr

namespace Json

instance : Inhabited Json := ⟨null⟩

mutual
/-- How deep lists and objects are nested. -/
def depth : Json → Nat
  | list items => 1 + depthItems items
  | object members => 1 + depthMembers members
  | _ => 0

def depthItems : List Json → Nat
  | [] => 0
  | item :: rest => max item.depth (depthItems rest)

def depthMembers : List (String × Json) → Nat
  | [] => 0
  | (_, item) :: rest => max item.depth (depthMembers rest)
end

end Json
end DocFilter

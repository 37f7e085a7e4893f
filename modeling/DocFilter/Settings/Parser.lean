import DocFilter.Number.Numeral
import DocFilter.Text.Blank
import DocFilter.Text.LowerCase

/-! # Configuration of the parser

What becomes of documents with more than one key, and how deep the parser goes.  A configuration is
built from settings in code, or loaded from named texts such as environment variables; both refuse a
depth of zero. -/

namespace DocFilter

/-- How a document with more than one key is read. -/
inductive MultiKey where
  /-- As one raw document. -/
  | passthrough
  /-- As the conjunction of its members. -/
  | conjunction
deriving DecidableEq, Repr

/-- What is wrong with a setting. -/
inductive ConfigFault where
  | unknownStrategy (name : String)
  | invalidDepth (fault : NumeralFault)
  | zeroDepth
  /-- A fault that a caller describes. -/
  | other (description : String)
deriving DecidableEq, Repr

/-- The name under which the strategy is looked up. -/
def multiKeyVariable : String := "QUARRY_PARSE_MULTI_KEY"

/-- The name under which the depth is looked up. -/
def maxDepthVariable : String := "QUARRY_PARSE_MAX_DEPTH"

def ConfigFault.message : ConfigFault → String
  | unknownStrategy name => "unknown multi-key strategy: " ++ name
  | invalidDepth fault => "invalid " ++ maxDepthVariable ++ ": " ++ fault.message
  | zeroDepth => "max_depth must be at least 1"
  | other description => description

namespace MultiKey

def name : MultiKey → String
  | passthrough => "passthrough"
  | conjunction => "conjunction"

/-- The strategy with a name, in letters of any case. -/
def ofName (s : String) : Except ConfigFault MultiKey :=
  let lower := Text.lowerCase s
  if lower = "passthrough" then .ok passthrough
  else if lower = "conjunction" ∨ lower = "and" then .ok conjunction
  else .error (.unknownStrategy lower)

end MultiKey

structure ParseConfig where
  multiKey : MultiKey := .passthrough
  /-- The depth from which on members are kept raw. -/
  maxDepth : Nat := 100
deriving DecidableEq, Repr

/-- The settings made so far. -/
structure ConfigBuilder where
  multiKey : Option MultiKey := none
  maxDepth : Option Nat := none
deriving DecidableEq, Repr

namespace ConfigBuilder

def setMultiKey (b : ConfigBuilder) (strategy : MultiKey) : ConfigBuilder :=
  { b with multiKey := some strategy }

def setMaxDepth (b : ConfigBuilder) (depth : Nat) : ConfigBuilder :=
  { b with maxDepth := some depth }

/-- The configuration with the settings made, and the defaults for the others. -/
def build (b : ConfigBuilder) : Except ConfigFault ParseConfig :=
  let default : ParseConfig := {}
  let depth := b.maxDepth.getD default.maxDepth
  if depth = 0 then .error .zeroDepth
  else .ok { multiKey := b.multiKey.getD default.multiKey, maxDepth := depth }

end ConfigBuilder

/-- A depth fits in 64 bits. -/
def depthBound : Nat := Nat.pow 2 64 - 1

/-- The depth that a text gives. -/
def readDepth (s : String) : Except ConfigFault Nat :=
  match readNat depthBound (Text.trim s) with
  | .ok depth => .ok depth
  | .error fault => .error (.invalidDepth fault)

/-- Loads a configuration through a lookup of named texts, the strategy first. -/
def ParseConfig.ofLookup (lookup : String → Option String) : Except ConfigFault ParseConfig := do
  let multiKey ← (lookup multiKeyVariable).mapM fun s => MultiKey.ofName (Text.trim s)
  let maxDepth ← (lookup maxDepthVariable).mapM readDepth
  ConfigBuilder.build { multiKey, maxDepth }

end DocFilter

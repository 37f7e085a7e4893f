import DocFilter.Settings.Parser
import DocFilter.Json.Reader

/-! # Configurations as JSON

A configuration is an object with a member for each setting, or a list of the settings in their
order.  Settings that are missing have their defaults and members with other names are passed over.
A depth of zero is accepted here. -/

namespace DocFilter

namespace MultiKey

/-- The strategy with exactly this name. -/
def ofExactName? (s : String) : Option MultiKey :=
  [passthrough, conjunction].find? fun m => m.name == s

/-- A strategy is a name, or an object that maps the name to null. -/
def ofJson? : Json → Option MultiKey
  | .string s => ofExactName? s
  | .object [(s, .null)] => ofExactName? s
  | _ => none

end MultiKey

namespace ParseConfig

def toJson (c : ParseConfig) : Json :=
  .object [("multi_key", .string c.multiKey.name), ("max_depth", .int c.maxDepth)]

def depthOfJson? : Json → Option Nat
  | .int n => if 0 ≤ n ∧ n ≤ depthBound then some n.toNat else none
  | _ => none

/-- Makes a setting; one that is made twice is an error. -/
def setMember? (b : ConfigBuilder) (name : String) (value : Json) : Option ConfigBuilder :=
  if name = "multi_key" then
    if b.multiKey.isSome then none else (MultiKey.ofJson? value).map b.setMultiKey
  else if name = "max_depth" then
    if b.maxDepth.isSome then none else (depthOfJson? value).map b.setMaxDepth
  else some b

/-- The settings that are made, and the defaults for the others. -/
def ofSettings (b : ConfigBuilder) : ParseConfig :=
  let default : ParseConfig := {}
  { multiKey := b.multiKey.getD default.multiKey, maxDepth := b.maxDepth.getD default.maxDepth }

def ofJson? : Json → Option ParseConfig
  | .object members =>
    (members.foldlM (fun b (name, value) => setMember? b name value) {}).map ofSettings
  | .list items =>
    if items.length ≤ 2 then
      ((["multi_key", "max_depth"].zip items).foldlM
        (fun b (name, value) => setMember? b name value) {}).map ofSettings
    else none
  | _ => none

/-- The configuration of a whole text, in which every control character has to be escaped, also in a
member that is passed over. -/
def ofJsonText? (s : String) : Option ParseConfig :=
  if Json.escapesControls false s.toList then (Json.read? s).bind ofJson? else none

end ParseConfig
end DocFilter

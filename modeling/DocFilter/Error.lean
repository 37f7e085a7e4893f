import DocFilter.Settings.Parser
import DocFilter.Geometry
import DocFilter.Value.Encoding
import DocFilter.Value.ObjectId

/-! # Errors

What can go wrong where values enter or leave: encoding a value, checking a geometry, loading a
configuration, reading an identifier.  Compiling, parsing, combining and comparing filters never
fail. -/

namespace DocFilter

inductive Error where
  | encoding (e : EncodingError)
  | geometry (fault : GeometryFault)
  | config (fault : ConfigFault)
  | objectId (fault : ObjectIdFault)
deriving DecidableEq, Repr

namespace Error

def message : Error → String
  | encoding e => "bson encoding error: " ++ e.message
  | geometry fault => "invalid geometry: " ++ fault.message
  | config fault => "configuration error: " ++ fault.message
  | objectId fault => "invalid object id: " ++ fault.message

def isEncoding : Error → Bool
  | encoding _ => true
  | _ => false

def isGeometry : Error → Bool
  | geometry _ => true
  | _ => false

def isConfig : Error → Bool
  | config _ => true
  | _ => false

end Error
end DocFilter

import DocFilter.Filter.Combine

/-! # Fields

A `Field` names the key that a leaf tests, so that several conditions on one field read alike. -/

namespace DocFilter

structure Field where
  key : String
deriving DecidableEq, Repr

namespace Field

def eq (f : Field) (value : Value) : Filter := .compare .eq f.key value

def ne (f : Field) (value : Value) : Filter := .compare .ne f.key value

/-- Equality with a value, or absence of the field. -/
def eqOptional (f : Field) (value : Option Value) : Filter := Filter.keyEq f.key value

/-- Inequality to a value, or presence of the field. -/
def neOptional (f : Field) (value : Option Value) : Filter := Filter.keyNe f.key value

def gt (f : Field) (value : Value) : Filter := .compare .gt f.key value

def gte (f : Field) (value : Value) : Filter := .compare .gte f.key value

def lt (f : Field) (value : Value) : Filter := .compare .lt f.key value

def lte (f : Field) (value : Value) : Filter := .compare .lte f.key value

def isIn (f : Field) (values : List Value) : Filter := .isIn f.key values

def present (f : Field) (expected : Bool) : Filter := .present f.key expected

def typeIs (f : Field) (type : ValueType) : Filter := .typeIs f.key type

def elemMatch (f : Field) (condition : Filter) : Filter := .elemMatch f.key condition

/-- The pattern matches somewhere in the field. -/
def contains (f : Field) (pattern : String) (options : String := "") : Filter :=
  .matching .anywhere f.key pattern options

/-- The pattern matches at the start of a line. -/
def startsWith (f : Field) (pattern : String) (options : String := "") : Filter :=
  .matching .lineStart f.key pattern options

/-- The pattern matches at the end of a line. -/
def endsWith (f : Field) (pattern : String) (options : String := "") : Filter :=
  .matching .lineEnd f.key pattern options

def near (f : Field) (center : Point) (max min : Option Double) : Filter :=
  .near .flat f.key center max min

def nearSphere (f : Field) (center : Point) (max min : Option Double) : Filter :=
  .near .sphere f.key center max min

def within (f : Field) (area : Polygon) : Filter := .within f.key area

def intersects (f : Field) (geometry : Geometry) : Filter := .intersects f.key geometry

end Field
end DocFilter

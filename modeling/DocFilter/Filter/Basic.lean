import DocFilter.Geometry
import DocFilter.Value.Canonical
import DocFilter.Value.Type

/-! # Filters

A `Filter` is a tree of conditions on documents.  Leaves test the field at one key; groups,
negations and conditions on array elements hold other filters; `raw` is a filter document that is
passed on as it stands. -/

namespace DocFilter

/-- How a field is compared with a value. -/
inductive Comparison where
  | eq | ne | gt | gte | lt | lte
deriving DecidableEq, Repr

def Comparison.all : List Comparison := [.eq, .ne, .gt, .gte, .lt, .lte]

def Comparison.keyword : Comparison → String
  | eq => "$eq"
  | ne => "$ne"
  | gt => "$gt"
  | gte => "$gte"
  | lt => "$lt"
  | lte => "$lte"

/-- The comparison that a keyword names.  Inequality has an older second spelling. -/
def Comparison.ofKeyword? (s : String) : Option Comparison :=
  if s = "$neq" then some ne else all.find? fun op => op.keyword == s

/-- How the conditions of a group are joined. -/
inductive Connective where
  | and | or
deriving DecidableEq, Repr

def Connective.keyword : Connective → String
  | and => "$and"
  | or => "$or"

def Connective.ofKeyword? (s : String) : Option Connective :=
  if s = "$and" then some and else if s = "$or" then some or else none

/-- Where a pattern has to match. -/
inductive Anchor where
  | anywhere
  /-- At the start of a line. -/
  | lineStart
  /-- At the end of a line. -/
  | lineEnd
deriving DecidableEq, Repr

inductive Filter where
  /-- No condition. -/
  | nothing
  | typeIs (key : String) (type : ValueType)
  | compare (op : Comparison) (key : String) (value : Value)
  /-- Some element of an array satisfies the condition. -/
  | elemMatch (key : String) (condition : Filter)
  | group (connective : Connective) (conditions : List Filter)
  | not (condition : Filter)
  /-- The field matches a regular expression. -/
  | matching (anchor : Anchor) (key pattern options : String)
  | raw (document : Document)
  | present (key : String) (expected : Bool)
  | isIn (key : String) (values : List Value)
  | near (metric : Metric) (key : String) (center : Point) (max min : Option Double)
  | within (key : String) (area : Polygon)
  | intersects (key : String) (geometry : Geometry)
deriving Repr

namespace Filter

instance : Inhabited Filter := ⟨nothing⟩

def isNothing : Filter → Bool
  | nothing => true
  | _ => false

/-- The field that a leaf or a condition on array elements tests. -/
def key? : Filter → Option String
  | typeIs key _ | compare _ key _ | elemMatch key _ | matching _ key _ _ | present key _
  | isIn key _ | near _ key _ _ _ | within key _ | intersects key _ => some key
  | nothing | group .. | not _ | raw _ => none

end Filter
end DocFilter

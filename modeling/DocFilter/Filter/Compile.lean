import DocFilter.Filter.Basic
import DocFilter.Filter.Event
import DocFilter.Value.Display

/-! # Filter documents

`Filter.compile` is the document that states a filter.  A leaf is one key with one operator, a
group a list under its keyword, and a negation is put on every key of what it negates, so that a
filter without raw documents always has at most one key.

Only the document of a whole filter is reported, and not those of the filters in it:
`Filter.toDocumentLogged` compiles a filter with that event, and `Filter.toDocument` is its result
(`Filter.toDocument_eq`).

The options of a pattern are written each once in ascending order (`normalOptions`); a pattern that
is tied to the start or the end of a line has the option `m` besides. -/

namespace DocFilter

/-! ### Options of patterns -/

/-- Puts a character in its place among ascending ones, unless it is there. -/
def insertOption (c : Char) : List Char → List Char
  | [] => [c]
  | d :: rest =>
    if c < d then c :: d :: rest else if c = d then d :: rest else d :: insertOption c rest

def ascending (cs : List Char) : List Char := cs.foldr insertOption []

namespace Anchor

def isTied : Anchor → Bool
  | anywhere => false
  | lineStart | lineEnd => true

/-- The pattern with the sign for the end of the line that it is tied to. -/
def apply : Anchor → String → String
  | anywhere, pattern => pattern
  | lineStart, pattern => "^" ++ pattern
  | lineEnd, pattern => pattern ++ "$"

/-- The options that a pattern is matched with, each once and in ascending order. -/
def normalOptions (anchor : Anchor) (options : String) : String :=
  String.ofList (ascending (options.toList ++ if anchor.isTied then ['m'] else []))

end Anchor

/-! ### Documents -/

/-- One key with one operator. -/
def clause (key op : String) (operand : Value) : Document :=
  [(key, .document [(op, operand)])]

/-- The negation of a condition on every key. -/
def negated (d : Document) : Document :=
  d.map fun (key, value) => (key, .document [("$not", value)])

/-- A check for a type that stored values have. -/
def typeClause (key : String) (type : ValueType) : Document :=
  clause key "$type" (.int32 (type.code?.getD 0))

/-- A check for any type; one for `number` asks for each of its types. -/
def typeDocument (key : String) (type : ValueType) : Document :=
  if type = .number then
    [("$or", .array (ValueType.numeric.map fun t => .document (typeClause key t)))]
  else typeClause key type

namespace Filter

mutual
def compile : Filter → Document
  | nothing => []
  | typeIs key type => typeDocument key type
  | compare op key value => clause key op.keyword value
  | elemMatch key condition => clause key "$elemMatch" (.document condition.compile)
  | group connective conditions => [(connective.keyword, .array (compileAll conditions))]
  | not condition => negated condition.compile
  | matching anchor key pattern options =>
    [(key, .regex (anchor.apply pattern) (anchor.normalOptions options))]
  | raw document => document
  | present key expected => clause key "$exists" (.bool expected)
  | isIn key values => clause key "$in" (.array values)
  | near metric key center max min => GeoOperator.clause (.near metric) key (.point center) max min
  | within key area => GeoOperator.clause .within key (.polygon area) none none
  | intersects key geometry => GeoOperator.clause .intersects key geometry none none

def compileAll : List Filter → List Value
  | [] => []
  | f :: rest => .document f.compile :: compileAll rest
end

theorem compileAll_eq_map (fs : List Filter) :
    compileAll fs = fs.map fun f => .document f.compile := by
  induction fs with
  | nil => simp [compileAll]
  | cons f fs ih => simp [compileAll, ih]

/-- Compiles a filter and reports the number of keys. -/
def toDocumentLogged (f : Filter) : Logged Document :=
  let d := f.compile
  .reporting (.compiled d.length) d

/-- The document of a filter. -/
def toDocument (f : Filter) : Document := f.toDocumentLogged.value

theorem toDocument_eq (f : Filter) : f.toDocument = f.compile := rfl

/-- The text of a filter is that of its document. -/
def display (f : Filter) : String := f.compile.display

end Filter
end DocFilter

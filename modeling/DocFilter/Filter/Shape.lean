import DocFilter.Filter.Basic
import DocFilter.Value.Document

/-! # Shapes of members

What a member of a filter document is: a list of documents under a connective, one operator with
its operand, or nothing that is known.  `Shape.of` decides it without looking into the documents
that the member holds.  A list of documents under a connective is seen first, so that a value which
is one operator counts as that only under other keys or when it is no such list. -/

namespace DocFilter

inductive Shape where
  | logical (connective : Connective) (documents : List Document)
  | comparison (op : Comparison) (operand : Value)
  | membership (values : List Value)
  | elemMatch (condition : Document)
  | unknown

namespace Shape

/-- The shape of an operator and its operand. -/
def ofOperator (op : String) (operand : Value) : Shape :=
  match Comparison.ofKeyword? op with
  | some relation => comparison relation operand
  | none =>
    if op = "$in" then (operand.listItems?.map membership).getD unknown
    else if op = "$elemMatch" then (operand.asDocument?.map elemMatch).getD unknown
    else unknown

/-- The shape of a value that is one operator. -/
def ofValue (value : Value) : Shape :=
  match value.singleOperator? with
  | some (op, operand) => ofOperator op operand
  | none => unknown

/-- The shape of a member. -/
def of (key : String) (value : Value) : Shape :=
  match Connective.ofKeyword? key, value.documentItems? with
  | some connective, some documents => logical connective documents
  | _, _ => ofValue value

/-! ### Shapes that are recognised -/

theorem ofKeyword?_keyword (c : Connective) : Connective.ofKeyword? c.keyword = some c := by
  cases c <;> rfl

theorem comparison_ofKeyword?_keyword (op : Comparison) :
    Comparison.ofKeyword? op.keyword = some op := by
  cases op <;> rfl

theorem mapM_asDocument? (ds : List Document) :
    (ds.map Value.document).mapM Value.asDocument? = some ds := by
  induction ds with
  | nil => rfl
  | cons d ds ih => simp [Value.asDocument?, ih]

/-- A group is recognised by its list, whatever documents are in it. -/
theorem of_group (c : Connective) (ds : List Document) :
    of c.keyword (.array (ds.map .document)) = logical c ds := by
  have items : (Value.array (ds.map .document)).documentItems? = some ds := mapM_asDocument? ds
  rw [of, ofKeyword?_keyword, items]

/-- An operator whose name is no numeral makes no list. -/
theorem documentItems?_operator {op : String} (h : op ≠ "0") (operand : Value) :
    Value.documentItems? (.document [(op, operand)]) = none := by
  have h' : Document.isListShaped [(op, operand)] = false := by
    have zero : Nat.repr 0 = "0" := rfl
    simpa [Document.isListShaped, Document.countsFrom, zero] using h
  simp [Value.documentItems?, Value.listItems?, Document.asList?, h']

/-- Under any key, one operator is recognised by its name. -/
theorem of_operator {op : String} (h : op ≠ "0") (key : String) (operand : Value) :
    of key (.document [(op, operand)]) = ofOperator op operand := by
  unfold of
  rw [documentItems?_operator h]
  cases Connective.ofKeyword? key <;> rfl

end Shape
end DocFilter

import DocFilter.Error
import DocFilter.Filter.Combine
import DocFilter.Filter.Equality
import DocFilter.Filter.Parse
import DocFilter.TextSearch

/-! # Queries

A `Query` is a filter that is to be sent.  It is built from shorthands, from filter documents and by
combining it with filters. -/

namespace DocFilter

structure Query where
  filter : Filter
deriving Repr

namespace Query

/-- The query that every document satisfies. -/
def all : Query := ⟨.nothing⟩

instance : Inhabited Query := ⟨all⟩

def raw (d : Document) : Query := ⟨.raw d⟩

/-- A text search without options. -/
def text (search : String) : Query := ⟨({ search } : TextSearch).toFilter⟩

def ofTextSearch (t : TextSearch) : Query := ⟨t.toFilter⟩

def eq (key : String) (value : Option Value) : Query := ⟨.keyEq key value⟩

def ne (key : String) (value : Option Value) : Query := ⟨.keyNe key value⟩

def byId (id : ObjectId) : Query := ⟨.compare .eq "_id" (.objectId id)⟩

/-- The query for the document whose identifier is written as hexadecimal digits. -/
def byIdText (s : String) : Except Error Query :=
  match ObjectId.read s with
  | .ok id => .ok (byId id)
  | .error fault => .error (.objectId fault)

def ofDocument (config : ParseConfig) (d : Document) : Query := ⟨.ofDocument config d⟩

def toDocument (q : Query) : Document := q.filter.toDocument

def isAll (q : Query) : Bool := q.filter.isNothing

def and (q : Query) (f : Filter) : Query := ⟨q.filter.and f⟩

def or (q : Query) (f : Filter) : Query := ⟨q.filter.or f⟩

def negate (q : Query) : Query := ⟨q.filter.negate⟩

instance : HAnd Query Filter Query := ⟨and⟩

instance : HOr Query Filter Query := ⟨or⟩

instance : Complement Query := ⟨negate⟩

/-- What is left in the place of a query to which a filter is assigned by conjunction. -/
def andAssign (place : Query) (f : Filter) : Query := place.and f

/-- What is left in the place of a query to which a filter is assigned by disjunction. -/
def orAssign (place : Query) (f : Filter) : Query := place.or f

def same (q r : Query) : Bool := q.filter.same r.filter

def display (q : Query) : String := q.filter.display

end Query
end DocFilter

import DocFilter.Json.Extended
import DocFilter.Json.Reader
import DocFilter.Json.Writer
import DocFilter.Query

/-! # Queries as JSON

A query is written as its filter document and read from one with the default configuration. -/

namespace DocFilter.Query

def toJson (q : Query) : Json := (Value.document q.toDocument).toJson

def toJsonText (q : Query) : String := q.toJson.write

def ofJsonText? (s : String) : Option Query := do
  let d ← Document.ofJson? (← Json.read? s)
  return ofDocument {} d

end DocFilter.Query

import DocFilter.Filter.Basic

/-! # Text search

The terms to search for and the options that are set.  An option that is not set is left out of the
document. -/

namespace DocFilter

structure TextSearch where
  search : String
  language : Option String := none
  caseSensitive : Option Bool := none
  diacriticSensitive : Option Bool := none
deriving DecidableEq, Repr

namespace TextSearch

def toDocument (t : TextSearch) : Document :=
  let option (key : String) (value : Option Value) : Document :=
    (value.map fun v => (key, v)).toList
  [("$text", .document (
    ("$search", .string t.search) ::
      (option "$language" (t.language.map .string) ++
        option "$caseSensitive" (t.caseSensitive.map .bool) ++
        option "$diacriticSensitive" (t.diacriticSensitive.map .bool))))]

def toFilter (t : TextSearch) : Filter := .raw t.toDocument

end TextSearch
end DocFilter

import DocFilter.Value.Basic

/-! # Looking into documents

Setting values by key, access by position, and the two views that filters are recognised by: a
value as a list, which a document with the keys `0`, `1`, `2`, … is as well as an array, and a value
as one operator with its operand.  A document that is built from pairs has each key once
(`nodup_keys_ofPairs`). -/

namespace DocFilter

namespace Document

/-- The document without members. -/
abbrev empty : Document := []

/-- Sets the value of a key.  A key that is there keeps its place, a new one comes last. -/
def insert (key : String) (value : Value) : Document → Document
  | [] => [(key, value)]
  | (k, v) :: rest => if k = key then (k, value) :: rest else (k, v) :: insert key value rest

/-- The document with the given pairs set one after the other. -/
def ofPairs (pairs : List (String × Value)) : Document :=
  pairs.foldl (fun d (key, value) => insert key value d) []

def keys (d : Document) : List String := d.map (·.1)

def values (d : Document) : List Value := d.map (·.2)

/-! ### Keys of documents that are built -/

theorem keys_insert (key : String) (value : Value) (d : Document) :
    (insert key value d).keys = if key ∈ d.keys then d.keys else d.keys ++ [key] := by
  induction d with
  | nil => rfl
  | cons member rest ih =>
    obtain ⟨k, v⟩ := member
    by_cases h : k = key
    · simp [insert, keys, h]
    · have h' : key ≠ k := Ne.symm h
      by_cases hr : key ∈ rest.map (·.1) <;> simp_all [insert, keys]

/-- Setting a value keeps each key once. -/
theorem nodup_keys_insert (key : String) (value : Value) {d : Document} (h : d.keys.Nodup) :
    (insert key value d).keys.Nodup := by
  rw [keys_insert]
  split
  · exact h
  · rename_i absent
    exact List.nodup_append.mpr ⟨h, by simp, fun a ha b hb e => absent (by simp_all)⟩

/-- A document that is built from pairs has each key once. -/
theorem nodup_keys_ofPairs (pairs : List (String × Value)) : (ofPairs pairs).keys.Nodup := by
  suffices h : ∀ d : Document, d.keys.Nodup →
      (pairs.foldl (fun d (key, value) => insert key value d) d).keys.Nodup from
    h [] List.nodup_nil
  induction pairs with
  | nil => exact fun d hd => hd
  | cons pair rest ih => exact fun d hd => ih _ (nodup_keys_insert _ _ hd)

/-! ### Single members and lists -/

def firstPair? (d : Document) : Option (String × Value) := d.head?

/-- The only pair. -/
def singlePair? : Document → Option (String × Value)
  | [pair] => some pair
  | _ => none

/-- Whether the keys are the numerals from `index` on, in order. -/
def countsFrom (index : Nat) : Document → Bool
  | [] => true
  | (key, _) :: rest => key == toString index && countsFrom (index + 1) rest

/-- Whether the keys are `0`, `1`, `2`, … in order. -/
def isListShaped (d : Document) : Bool := countsFrom 0 d

/-- The values of a list-shaped document. -/
def asList? (d : Document) : Option (List Value) :=
  if isListShaped d then some (values d) else none

end Document

namespace Value

def asDocument? : Value → Option Document
  | document d => some d
  | _ => none

/-- The items of an array or of a list-shaped document. -/
def listItems? : Value → Option (List Value)
  | array items => some items
  | document d => Document.asList? d
  | _ => none

/-- The items of a list, if all are documents. -/
def documentItems? (v : Value) : Option (List Document) := do
  let items ← v.listItems?
  items.mapM asDocument?

/-- The operator and the operand of a document such as `{"$gt": 5}`. -/
def singleOperator? (v : Value) : Option (String × Value) :=
  v.asDocument?.bind Document.singlePair?

end Value
end DocFilter

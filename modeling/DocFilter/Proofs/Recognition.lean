import DocFilter.Filter.Shape

/-! # What the shapes of members say

`Shape.of` sorts a member by looking at its key and one level into its value.  `recognised` is the
converse view: for every shape, what the member must have been.  From it follows that a member which
is written out again, in the spelling of its shape and with other documents inside, is recognised as
that shape with those documents (`Recognised.of_written`), and that a member has no known shape
exactly when the rules for connectives and for operators do not apply (`of_eq_unknown_iff`). -/

namespace DocFilter
namespace Shape

/-! ### Documents inside a shape -/

/-- The documents that a shape holds. -/
def documents : Shape → List Document
  | logical _ ds => ds
  | elemMatch d => [d]
  | comparison .. | membership _ | unknown => []

/-- The shape with other documents in the place of its own. -/
def mapDocuments (f : Document → Document) : Shape → Shape
  | logical c ds => logical c (ds.map f)
  | elemMatch d => elemMatch (f d)
  | comparison op operand => comparison op operand
  | membership values => membership values
  | unknown => unknown

theorem mapDocuments_congr {f g : Document → Document} (s : Shape)
    (h : ∀ d ∈ s.documents, f d = g d) : s.mapDocuments f = s.mapDocuments g := by
  cases s with
  | logical c ds =>
      have e : ds.map f = ds.map g := List.map_congr_left h
      rw [mapDocuments, mapDocuments, e]
  | elemMatch d => rw [mapDocuments, mapDocuments, h d (by simp [documents])]
  | _ => rfl

theorem documents_mapDocuments (f : Document → Document) (s : Shape) :
    (s.mapDocuments f).documents = s.documents.map f := by
  cases s <;> rfl

theorem mapDocuments_id (s : Shape) : s.mapDocuments (fun d => d) = s := by
  cases s <;> simp [mapDocuments]

/-- The value that states a shape.  A value of no known shape stays as it is. -/
def written (value : Value) : Shape → Value
  | logical _ ds => .array (ds.map .document)
  | comparison op operand => .document [(op.keyword, operand)]
  | membership values => .document [("$in", .array values)]
  | elemMatch d => .document [("$elemMatch", .document d)]
  | unknown => value

theorem written_written (value : Value) (s : Shape) :
    s.written (s.written value) = s.written value := by
  cases s <;> rfl

/-! ### One operator -/

theorem keyword_ne_zero (op : Comparison) : op.keyword ≠ "0" := by
  cases op <;> decide

/-- A keyword of a comparison is none of the other names. -/
theorem ofKeyword?_ne {name name' : String} {op : Comparison}
    (h : Comparison.ofKeyword? name = some op) (h' : Comparison.ofKeyword? name' = none) :
    name ≠ name' := by
  rintro rfl
  rw [h] at h'
  cases h'

theorem of_comparison (op : Comparison) (key : String) (operand : Value) :
    of key (.document [(op.keyword, operand)]) = comparison op operand := by
  rw [of_operator (keyword_ne_zero op), ofOperator, comparison_ofKeyword?_keyword]

theorem of_membership (key : String) (values : List Value) :
    of key (.document [("$in", .array values)]) = membership values := by
  rw [of_operator (by decide)]
  rfl

theorem of_elemMatch (key : String) (d : Document) :
    of key (.document [("$elemMatch", .document d)]) = elemMatch d := by
  rw [of_operator (by decide)]
  rfl

/-- An operator that only the compiler knows is not recognised, under any key. -/
theorem of_foreign {op : String} (h : ∀ operand, ofOperator op operand = unknown) (h0 : op ≠ "0")
    (key : String) (operand : Value) : of key (.document [(op, operand)]) = unknown := by
  rw [of_operator h0, h]

theorem of_scalar (key : String) (s : Scalar) : of key (.scalar s) = unknown := by
  have items : Value.documentItems? (.scalar s) = none := rfl
  unfold of
  rw [items]
  cases Connective.ofKeyword? key <;> rfl

/-! ### Recognition, rule by rule -/

/-- What a member is when it is recognised as a shape. -/
inductive Recognised : String → Value → Shape → Prop
  | logical {c : Connective} {value : Value} {ds : List Document} :
      value.documentItems? = some ds → Recognised c.keyword value (logical c ds)
  | comparison {key name : String} {op : Comparison} {operand : Value} :
      Comparison.ofKeyword? name = some op →
      Recognised key (.document [(name, operand)]) (comparison op operand)
  | membership {key : String} {list : Value} {values : List Value} :
      list.listItems? = some values →
      Recognised key (.document [("$in", list)]) (membership values)
  | elemMatch {key : String} {d : Document} :
      Recognised key (.document [("$elemMatch", .document d)]) (elemMatch d)
  | unknown {key : String} {value : Value} :
      of key value = unknown → Recognised key value unknown

theorem keyword_of_ofKeyword? {key : String} {c : Connective}
    (h : Connective.ofKeyword? key = some c) : key = c.keyword := by
  unfold Connective.ofKeyword? at h
  split at h
  · next e => cases h; exact e
  · split at h
    · next e => cases h; exact e
    · cases h

theorem eq_document_of_asDocument? {v : Value} {d : Document} (h : v.asDocument? = some d) :
    v = .document d := by
  unfold Value.asDocument? at h
  split at h
  · cases h; rfl
  · cases h

theorem eq_document_of_singleOperator? {v : Value} {name : String} {operand : Value}
    (h : v.singleOperator? = some (name, operand)) : v = .document [(name, operand)] := by
  obtain ⟨d, hd, hp⟩ := Option.bind_eq_some_iff.mp h
  rw [eq_document_of_asDocument? hd]
  unfold Document.singlePair? at hp
  split at hp
  · cases hp; rfl
  · cases hp

/-- An operator that is read as a shape, whatever its key. -/
theorem recognised_ofOperator {key name : String} {operand : Value}
    (h : of key (.document [(name, operand)]) = ofOperator name operand) :
    Recognised key (.document [(name, operand)]) (ofOperator name operand) := by
  by_cases hu : ofOperator name operand = unknown
  · rw [hu] at h ⊢
    exact .unknown h
  unfold ofOperator at hu ⊢
  split
  · next op hop => exact .comparison hop
  · next hop =>
    rw [hop] at hu
    dsimp only at hu
    split
    · next e =>
      subst e
      cases hl : operand.listItems? with
      | none => simp [hl] at hu
      | some values => exact .membership hl
    · next e =>
      rw [if_neg e] at hu
      split
      · next e' =>
        subst e'
        cases hd : operand.asDocument? with
        | none => simp [hd] at hu
        | some d =>
            rw [eq_document_of_asDocument? hd]
            exact .elemMatch
      · next e' => simp [e'] at hu

theorem recognised (key : String) (value : Value) : Recognised key value (of key value) := by
  have fallback : of key value = ofValue value → Recognised key value (of key value) := by
    intro h
    cases hs : value.singleOperator? with
    | none =>
        have hu : of key value = unknown := by rw [h, ofValue, hs]
        rw [hu]
        exact .unknown hu
    | some operator =>
        obtain ⟨name, operand⟩ := operator
        have e : of key value = ofOperator name operand := by rw [h, ofValue, hs]
        rw [e]
        rw [eq_document_of_singleOperator? hs] at e ⊢
        exact recognised_ofOperator e
  cases hc : Connective.ofKeyword? key with
  | none => exact fallback (by rw [of, hc])
  | some c =>
      cases hd : value.documentItems? with
      | none => exact fallback (by rw [of, hc, hd])
      | some ds =>
          have e : of key value = logical c ds := by rw [of, hc, hd]
          rw [e, keyword_of_ofKeyword? hc]
          exact .logical hd

/-- A member that is written out again is recognised as what it was. -/
theorem Recognised.of_written {key : String} {value : Value} {s : Shape}
    (h : Recognised key value s) (f : Document → Document) :
    of key ((s.mapDocuments f).written value) = s.mapDocuments f := by
  cases h with
  | logical _ => exact of_group _ _
  | comparison _ => exact of_comparison _ _ _
  | membership _ => exact of_membership _ _
  | elemMatch => exact of_elemMatch _ _
  | unknown hu => exact hu

/-! ### Members that no rule recognises -/

/-- The rule for connectives applies: the key is one, and the value is a list of documents. -/
def IsListing (key : String) (value : Value) : Prop :=
  ∃ (c : Connective) (ds : List Document), key = c.keyword ∧ value.documentItems? = some ds

/-- A rule for operators applies: the value is a single operator that is known, with an operand that
it can have. -/
inductive IsOperation : Value → Prop
  | comparison {name : String} {op : Comparison} (operand : Value) :
      Comparison.ofKeyword? name = some op → IsOperation (.document [(name, operand)])
  | membership {list : Value} {values : List Value} :
      list.listItems? = some values → IsOperation (.document [("$in", list)])
  | elemMatch (d : Document) : IsOperation (.document [("$elemMatch", .document d)])

theorem of_ne_unknown_of_isListing {key : String} {value : Value} (h : IsListing key value) :
    of key value ≠ unknown := by
  obtain ⟨c, ds, rfl, hitems⟩ := h
  intro hu
  rw [of, ofKeyword?_keyword, hitems] at hu
  cases hu

theorem of_ne_unknown_of_isOperation {key : String} {value : Value} (h : IsOperation value) :
    of key value ≠ unknown := by
  intro hu
  cases h with
  | comparison operand hname =>
      rw [of_operator (ofKeyword?_ne hname rfl), ofOperator, hname] at hu
      cases hu
  | @membership list values hlist =>
      have hin : ofOperator "$in" list = (list.listItems?.map membership).getD unknown := rfl
      rw [of_operator (by decide), hin, hlist] at hu
      cases hu
  | elemMatch d =>
      rw [of_elemMatch] at hu
      cases hu

/-- A member is of no known shape exactly when none of the rules applies. -/
theorem of_eq_unknown_iff (key : String) (value : Value) :
    of key value = unknown ↔ ¬ IsListing key value ∧ ¬ IsOperation value := by
  constructor
  · intro hu
    exact ⟨fun h => of_ne_unknown_of_isListing h hu, fun h => of_ne_unknown_of_isOperation h hu⟩
  · rintro ⟨hlisting, hoperation⟩
    have hr := recognised key value
    generalize of key value = s at hr ⊢
    cases hr with
    | logical hitems => exact absurd ⟨_, _, rfl, hitems⟩ hlisting
    | comparison hname => exact absurd (.comparison _ hname) hoperation
    | membership hlist => exact absurd (.membership hlist) hoperation
    | elemMatch => exact absurd (.elemMatch _) hoperation
    | unknown _ => rfl

/-! ### Lists, as arrays and as documents -/

theorem eq_array_or_isListShaped {v : Value} {items : List Value}
    (h : v.listItems? = some items) :
    v = .array items ∨ ∃ d : Document, v = .document d ∧ d.isListShaped := by
  unfold Value.listItems? at h
  split at h
  · cases h; exact .inl rfl
  · next d =>
    unfold Document.asList? at h
    split at h
    · next hd => exact .inr ⟨d, rfl, hd⟩
    · cases h
  · cases h

theorem map_document_of_mapM {items : List Value} {ds : List Document}
    (h : items.mapM Value.asDocument? = some ds) : items = ds.map .document := by
  induction items generalizing ds with
  | nil =>
      simp only [List.mapM_nil, Option.pure_def, Option.some.injEq] at h
      rw [← h, List.map_nil]
  | cons v items ih =>
      simp only [List.mapM_cons, Option.bind_eq_bind, Option.bind_eq_some_iff,
        Option.pure_def, Option.some.injEq] at h
      obtain ⟨d, hd, rest, hrest, rfl⟩ := h
      rw [eq_document_of_asDocument? hd, ih hrest, List.map_cons]

theorem eq_array_map_or_isListShaped {v : Value} {ds : List Document}
    (h : v.documentItems? = some ds) :
    v = .array (ds.map .document) ∨ ∃ d : Document, v = .document d ∧ d.isListShaped := by
  obtain ⟨items, hitems, hds⟩ := Option.bind_eq_some_iff.mp h
  rw [← map_document_of_mapM hds]
  exact eq_array_or_isListShaped hitems

end Shape
end DocFilter

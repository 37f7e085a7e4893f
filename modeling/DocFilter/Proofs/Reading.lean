import DocFilter.Filter.Compile
import DocFilter.Filter.Parse
import DocFilter.Proofs.Recognition

/-! # The reader without its events

`readDocument` is the filter that the reader finds in a document with some levels left, and
`restated` the document that states this filter again.  Neither depends on the depth, which only the
events show (`value_ofDocumentAt`).  Both have one equation for each way to read a document: it is
empty, it has one member and no level or some levels are left, or it has several members.  These are
the cases of `induction_levels`.

`reread_one_succ` and its companions are the same equations for reading what was restated: a filter
that was read with levels left keeps its shape, and only what is inside can change. -/

namespace DocFilter

/-- A document is read by whether it has no member, one or several. -/
@[elab_as_elim]
theorem Document.cases_members {P : Document → Prop} (empty : P [])
    (single : ∀ key value, P [(key, value)]) (several : ∀ d : Document, 1 < d.length → P d) :
    ∀ d, P d
  | [] => empty
  | [(key, value)] => single key value
  | m :: m' :: rest => several (m :: m' :: rest) (by simp)

namespace Filter

/-- Induction along the way of the reader, with the levels that are left.  The members of a document
of several stand one level below it.  Where no level is left they are not looked into, no more than
an only member is. -/
@[elab_as_elim]
theorem induction_levels {P : Nat → Document → Prop} (empty : ∀ levels, P levels [])
    (cut : ∀ key value, P 0 [(key, value)])
    (member : ∀ levels key value, (∀ d ∈ (Shape.of key value).documents, P levels d) →
      P (levels + 1) [(key, value)])
    (several : ∀ levels d, 1 < d.length → (∀ m ∈ d, P (levels - 1) [m]) → P levels d)
    (levels : Nat) : ∀ d, P levels d := by
  induction levels with
  | zero =>
      intro d
      cases d using Document.cases_members with
      | empty => exact empty 0
      | single key value => exact cut key value
      | several d hd => exact several 0 d hd fun m _ => cut m.1 m.2
  | succ n ih =>
      intro d
      cases d using Document.cases_members with
      | empty => exact empty (n + 1)
      | single key value => exact member n key value fun d _ => ih d
      | several d hd => exact several (n + 1) d hd fun m _ => ih [m]

/-- The filter of a member of the given shape, where `read` reads the documents inside. -/
def ofShape (read : Document → Filter) (member : String × Value) : Shape → Filter
  | .logical connective ds => group connective (ds.map read)
  | .comparison op operand => compare op member.1 operand
  | .membership values => isIn member.1 values
  | .elemMatch d => elemMatch member.1 (read d)
  | .unknown => rawMember member

theorem ofShape_congr {read read' : Document → Filter} (member : String × Value) (s : Shape)
    (h : ∀ d ∈ s.documents, read d = read' d) : ofShape read member s = ofShape read' member s := by
  cases s with
  | logical c ds =>
      have e : ds.map read = ds.map read' := List.map_congr_left h
      rw [ofShape, ofShape, e]
  | elemMatch d => rw [ofShape, ofShape, h d (by simp [Shape.documents])]
  | _ => rfl

theorem value_ofMemberWith (read : Document → Logged Filter) (member : String × Value) :
    (ofMemberWith read member).value =
      ofShape (fun d => (read d).value) member (Shape.of member.1 member.2) := by
  unfold ofMemberWith
  dsimp only
  cases Shape.of member.1 member.2 with
  | logical c ds => simp [Logged.all, Logged.map, ofShape, Function.comp_def]
  | _ => rfl

/-- A member of no known shape is reported itself, and any other by what is reported inside it. -/
theorem events_ofMemberWith (read : Document → Logged Filter) (member : String × Value) :
    (ofMemberWith read member).events =
      match Shape.of member.1 member.2 with
      | .unknown => [.unrecognized member.1]
      | s => s.documents.flatMap fun d => (read d).events := by
  unfold ofMemberWith
  dsimp only
  cases Shape.of member.1 member.2 with
  | logical c ds => simp [Logged.all, Logged.map, Shape.documents, List.flatMap_map]
  | elemMatch d => simp [Logged.map, Shape.documents]
  | _ => rfl

section
variable (multiKey : MultiKey)

/-- The filter that a document states with this many levels left. -/
def readDocument (levels : Nat) (d : Document) : Filter := (ofDocumentAt multiKey levels 0 d).value

/-- The document of the filter that a document states. -/
def restated (levels : Nat) (d : Document) : Document := (readDocument multiKey levels d).compile

/-- The depth shows in the events alone. -/
theorem value_ofDocumentAt (levels : Nat) : ∀ (depth : Nat) (d : Document),
    (ofDocumentAt multiKey levels depth d).value = readDocument multiKey levels d := by
  induction levels with
  | zero =>
      intro depth d
      cases d using Document.cases_members with
      | empty => rfl
      | single key value =>
          simp only [readDocument, ofDocumentAt_singleton, ofMember_zero, Logged.reporting]
      | several d h =>
          cases multiKey with
          | passthrough => simp only [readDocument, ofDocumentAt_passthrough _ _ h]
          | conjunction =>
              simp only [readDocument, ofDocumentAt_conjunction _ _ h, ofMember_zero, Nat.zero_sub,
                Logged.map, Logged.all, Logged.reporting, List.map_map, Function.comp_def]
  | succ n ih =>
      intro depth d
      cases d using Document.cases_members with
      | empty => rfl
      | single key value =>
          rw [readDocument]
          simp only [ofDocumentAt_singleton, ofMember_succ, value_ofMemberWith, ih]
      | several d h =>
          cases multiKey with
          | passthrough => simp only [readDocument, ofDocumentAt_passthrough _ _ h]
          | conjunction =>
              have member : ∀ (i : Nat) (x : String × Value),
                  (ofMember .conjunction n i x).value = readDocument .conjunction n [x] := by
                intro i x
                rw [← ofDocumentAt_singleton]
                exact ih i [x]
              rw [readDocument]
              simp only [ofDocumentAt_conjunction _ _ h, Nat.add_sub_cancel, Logged.map, Logged.all,
                List.map_map, Function.comp_def, member]

theorem ofDocument_eq (config : ParseConfig) (d : Document) :
    ofDocument config d = readDocument config.multiKey config.maxDepth d := rfl

/-! ### Reading -/

theorem readDocument_nil (levels : Nat) : readDocument multiKey levels [] = nothing := rfl

theorem readDocument_one_zero (m : String × Value) : readDocument multiKey 0 [m] = rawMember m := by
  rw [readDocument, ofDocumentAt_singleton, ofMember_zero]
  rfl

theorem readDocument_one_succ (levels : Nat) (m : String × Value) :
    readDocument multiKey (levels + 1) [m] =
      ofShape (readDocument multiKey levels) m (Shape.of m.1 m.2) := by
  rw [readDocument, ofDocumentAt_singleton, ofMember_succ, value_ofMemberWith]
  simp only [value_ofDocumentAt]

end

theorem readDocument_passthrough (levels : Nat) {d : Document} (h : 1 < d.length) :
    readDocument .passthrough levels d = raw d := by
  rw [readDocument, ofDocumentAt_passthrough _ _ h]
  rfl

theorem readDocument_conjunction (levels : Nat) {d : Document} (h : 1 < d.length) :
    readDocument .conjunction levels d =
      group .and (d.map fun m => readDocument .conjunction (levels - 1) [m]) := by
  rw [readDocument, ofDocumentAt_conjunction _ _ h]
  simp only [Logged.map, Logged.all, List.map_map, Function.comp_def, ← ofDocumentAt_singleton,
    value_ofDocumentAt]

/-! ### Restating -/

theorem compile_group (c : Connective) (fs : List Filter) :
    (group c fs).compile = [(c.keyword, .array ((fs.map compile).map .document))] := by
  rw [compile, compileAll_eq_map, List.map_map]
  rfl

/-- A member is restated under its key, in the spelling of its shape. -/
theorem compile_ofShape (read : Document → Filter) {key : String} {value : Value} {s : Shape}
    (h : Shape.Recognised key value s) :
    (ofShape read (key, value) s).compile =
      [(key, (s.mapDocuments fun d => (read d).compile).written value)] := by
  cases h with
  | logical _ =>
      rw [ofShape, compile_group]
      simp only [Shape.mapDocuments, Shape.written, List.map_map, Function.comp_def]
  | comparison _ => rw [ofShape, compile]; rfl
  | membership _ => rw [ofShape, compile]; rfl
  | elemMatch => rw [ofShape, compile]; rfl
  | unknown _ => rw [ofShape, rawMember, compile]; rfl

section
variable (multiKey : MultiKey)

theorem restated_nil (levels : Nat) : restated multiKey levels [] = [] := by
  rw [restated, readDocument_nil, compile]

theorem restated_one_zero (m : String × Value) : restated multiKey 0 [m] = [m] := by
  rw [restated, readDocument_one_zero, rawMember, compile]

theorem restated_one_succ (levels : Nat) (key : String) (value : Value) :
    restated multiKey (levels + 1) [(key, value)] =
      [(key, ((Shape.of key value).mapDocuments (restated multiKey levels)).written value)] := by
  rw [restated, readDocument_one_succ]
  exact compile_ofShape (readDocument multiKey levels) (Shape.recognised key value)

end

theorem restated_passthrough (levels : Nat) {d : Document} (h : 1 < d.length) :
    restated .passthrough levels d = d := by
  rw [restated, readDocument_passthrough levels h, compile]

theorem restated_conjunction (levels : Nat) {d : Document} (h : 1 < d.length) :
    restated .conjunction levels d =
      [("$and", .array ((d.map fun m => restated .conjunction (levels - 1) [m]).map .document))] := by
  rw [restated, readDocument_conjunction levels h, compile_group]
  simp only [List.map_map, Function.comp_def, restated, Connective.keyword]

/-! ### Reading what was restated -/

/-- The filter of a member with other documents inside.  Only a member of no known shape shows its
value. -/
theorem ofShape_mapDocuments (read : Document → Filter) (f : Document → Document) (key : String)
    {value value' : Value} (s : Shape) (h : s = .unknown → value' = value) :
    ofShape read (key, value') (s.mapDocuments f) =
      ofShape (fun d => read (f d)) (key, value) s := by
  cases s with
  | logical c ds => simp only [Shape.mapDocuments, ofShape, List.map_map, Function.comp_def]
  | unknown => rw [Shape.mapDocuments, ofShape, ofShape, h rfl]
  | _ => rfl

section
variable (multiKey : MultiKey)

theorem reread_nil (levels : Nat) :
    readDocument multiKey levels (restated multiKey levels []) = nothing := by
  rw [restated_nil, readDocument_nil]

theorem reread_one_zero (m : String × Value) :
    readDocument multiKey 0 (restated multiKey 0 [m]) = rawMember m := by
  rw [restated_one_zero, readDocument_one_zero]

/-- The shape of a member survives, and the documents inside are read again. -/
theorem reread_one_succ (levels : Nat) (key : String) (value : Value) :
    readDocument multiKey (levels + 1) (restated multiKey (levels + 1) [(key, value)]) =
      ofShape (fun d => readDocument multiKey levels (restated multiKey levels d)) (key, value)
        (Shape.of key value) := by
  rw [restated_one_succ, readDocument_one_succ]
  dsimp only
  rw [(Shape.recognised key value).of_written]
  refine ofShape_mapDocuments _ _ key (Shape.of key value) fun hs => ?_
  rw [hs]
  rfl

end

theorem reread_passthrough (levels : Nat) {d : Document} (h : 1 < d.length) :
    readDocument .passthrough levels (restated .passthrough levels d) = raw d := by
  rw [restated_passthrough levels h, readDocument_passthrough levels h]

/-- With no level left the conjunction that a document was restated as is not looked into. -/
theorem reread_conjunction_zero {d : Document} (h : 1 < d.length) :
    readDocument .conjunction 0 (restated .conjunction 0 d) =
      rawMember ("$and", .array ((d.map fun m => [m]).map .document)) := by
  rw [restated_conjunction 0 h, readDocument_one_zero]
  simp only [Nat.zero_sub, restated_one_zero]

/-- With levels left it is a group again, and its members are read again. -/
theorem reread_conjunction_succ (levels : Nat) {d : Document} (h : 1 < d.length) :
    readDocument .conjunction (levels + 1) (restated .conjunction (levels + 1) d) =
      group .and
        (d.map fun m => readDocument .conjunction levels (restated .conjunction levels [m])) := by
  have hs := Shape.of_group .and (d.map fun m => restated .conjunction levels [m])
  rw [Connective.keyword] at hs
  rw [restated_conjunction (levels + 1) h, Nat.add_sub_cancel, readDocument_one_succ]
  dsimp only
  rw [hs, ofShape, List.map_map]
  rfl

end Filter
end DocFilter

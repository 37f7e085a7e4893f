import DocFilter.Proofs.Reading

/-! # Documents that reading keeps

A document that is read and compiled again can come back in another spelling: `$neq` as `$ne`, a
list that was a document as an array, several members as the list of a conjunction.  `Kept` collects
what rules this out along the way of the reader, down to the levels that it goes.  Such a document
comes back as it was (`Kept.restated_eq`), and where no document of several members is met it does
not matter how those are read (`Kept.readDocument_eq`).

Under `passthrough` only the spelling counts, so that a document without the two other spellings
comes back from any depth (`toDocument_ofDocument_passthrough`). -/

namespace DocFilter

/-! ### Members of all documents in a value -/

mutual
/-- Whether a test holds of the members of all documents in a value, at any level.  The bindings of
code belong to the code and are left out. -/
def Value.everyMember (p : String → Value → Bool) : Value → Bool
  | .scalar _ | .scopedCode _ _ => true
  | .array items => Value.everyMemberOfItems p items
  | .document d => Document.everyMember p d

def Value.everyMemberOfItems (p : String → Value → Bool) : List Value → Bool
  | [] => true
  | v :: vs => Value.everyMember p v && Value.everyMemberOfItems p vs

def Document.everyMember (p : String → Value → Bool) : Document → Bool
  | [] => true
  | (key, value) :: rest => p key value && Value.everyMember p value && Document.everyMember p rest
end

/-- Whether a value is a list that is written as a document. -/
def Value.isListDocument : Value → Bool
  | .document d => Document.isListShaped d
  | _ => false

section
variable {p : String → Value → Bool}

theorem Value.everyMember_of_mem {v : Value} {vs : List Value}
    (h : Value.everyMemberOfItems p vs = true) (hv : v ∈ vs) : v.everyMember p = true := by
  induction vs with
  | nil => cases hv
  | cons w vs ih =>
      rw [Value.everyMemberOfItems, Bool.and_eq_true] at h
      rcases List.mem_cons.mp hv with rfl | hv
      · exact h.1
      · exact ih h.2 hv

theorem Document.everyMember_one {key : String} {value : Value}
    (h : Document.everyMember p [(key, value)] = true) :
    p key value = true ∧ value.everyMember p = true := by
  simpa [Document.everyMember] using h

/-- The documents in a value that is written as its shape are documents of the value. -/
theorem Shape.everyMember_of_mem_documents {value : Value} {s : Shape}
    (hw : s.written value = value) (h : value.everyMember p = true) :
    ∀ d ∈ s.documents, d.everyMember p = true := by
  rw [← hw] at h
  cases s with
  | logical c ds =>
      intro d hd
      rw [written, Value.everyMember] at h
      have := Value.everyMember_of_mem h (List.mem_map_of_mem (f := Value.document) hd)
      rwa [Value.everyMember] at this
  | elemMatch e =>
      intro d hd
      rw [documents, List.mem_singleton] at hd
      subst hd
      rw [written, Value.everyMember] at h
      have := (Document.everyMember_one h).2
      rwa [Value.everyMember] at this
  | _ => simp [documents]

end

namespace Filter

/-- Documents that come back as they are when they are read with this many levels left. -/
inductive Kept (multiKey : MultiKey) : Nat → Document → Prop
  | empty (levels : Nat) : Kept multiKey levels []
  | cut (m : String × Value) : Kept multiKey 0 [m]
  | member {levels : Nat} {key : String} {value : Value} :
      (Shape.of key value).written value = value →
      (∀ d ∈ (Shape.of key value).documents, Kept multiKey levels d) →
      Kept multiKey (levels + 1) [(key, value)]
  | whole {levels : Nat} {d : Document} :
      multiKey = .passthrough → 1 < d.length → Kept multiKey levels d

theorem Kept.restated_eq {multiKey : MultiKey} {levels : Nat} {d : Document}
    (h : Kept multiKey levels d) : restated multiKey levels d = d := by
  induction h with
  | empty levels => exact restated_nil multiKey levels
  | cut m => exact restated_one_zero multiKey m
  | @member levels key value hw _ ih =>
      have hmap : (Shape.of key value).mapDocuments (restated multiKey levels) =
          (Shape.of key value).mapDocuments fun d => d :=
        Shape.mapDocuments_congr _ ih
      rw [restated_one_succ, hmap, Shape.mapDocuments_id, hw]
  | whole hm hd =>
      subst hm
      exact restated_passthrough _ hd

/-- Such a document has no several members where the reader comes to, so that both ways to read
them agree on it. -/
theorem Kept.readDocument_eq {levels : Nat} {d : Document} (h : Kept .conjunction levels d) :
    readDocument .passthrough levels d = readDocument .conjunction levels d := by
  induction h with
  | empty levels => rw [readDocument_nil, readDocument_nil]
  | cut m => rw [readDocument_one_zero, readDocument_one_zero]
  | member _ _ ih =>
      rw [readDocument_one_succ, readDocument_one_succ]
      exact ofShape_congr _ _ ih
  | whole hm _ => cases hm

/-- A member that is kept with any number of levels left. -/
theorem kept_one {multiKey : MultiKey} {key : String} {value : Value} {s : Shape}
    (hs : Shape.of key value = s) (hw : s.written value = value)
    (hd : ∀ d ∈ s.documents, ∀ levels, Kept multiKey levels d) (levels : Nat) :
    Kept multiKey levels [(key, value)] := by
  subst hs
  cases levels with
  | zero => exact .cut _
  | succ n => exact .member hw fun d h => hd d h n

/-! ### Spelling -/

/-- Whether a member is spelled in the way of the compiler: inequality is `$ne`, and the lists of
groups and of membership are arrays. -/
def keepsSpelling (key : String) (value : Value) : Bool :=
  key != "$neq" && !(["$or", "$and", "$in"].contains key && value.isListDocument)

theorem not_isListDocument {key : String} {value : Value} (h : keepsSpelling key value = true)
    (hkey : key ∈ ["$or", "$and", "$in"]) : value.isListDocument = false := by
  have hc : ["$or", "$and", "$in"].contains key = true := List.contains_iff_mem.mpr hkey
  rw [keepsSpelling, hc] at h
  simpa using (Bool.and_eq_true_iff.mp h).2

theorem keyword_of_comparison {name : String} {op : Comparison} (hne : name ≠ "$neq")
    (h : Comparison.ofKeyword? name = some op) : name = op.keyword := by
  rw [Comparison.ofKeyword?, if_neg hne] at h
  have := List.find?_some h
  simpa using Eq.symm (beq_iff_eq.mp this)

/-- Members of kept spelling are written as their shapes. -/
theorem written_of_keepsSpelling {key : String} {value : Value} {s : Shape}
    (hs : Shape.Recognised key value s)
    (h : Document.everyMember keepsSpelling [(key, value)] = true) : s.written value = value := by
  obtain ⟨hkey, hvalue⟩ := Document.everyMember_one h
  cases hs with
  | @logical c value ds hitems =>
      rcases Shape.eq_array_map_or_isListShaped hitems with rfl | ⟨d, rfl, hd⟩
      · rfl
      · have hmem : c.keyword ∈ ["$or", "$and", "$in"] := by cases c <;> decide
        have := not_isListDocument hkey hmem
        rw [Value.isListDocument, hd] at this
        cases this
  | @comparison key name op operand hname =>
      rw [Value.everyMember] at hvalue
      have hspelling := (Document.everyMember_one hvalue).1
      have hne : name ≠ "$neq" := by
        rintro rfl
        simp [keepsSpelling] at hspelling
      rw [Shape.written, keyword_of_comparison hne hname]
  | @membership key list values hitems =>
      rw [Value.everyMember] at hvalue
      have hlist := (Document.everyMember_one hvalue).1
      rcases Shape.eq_array_or_isListShaped hitems with rfl | ⟨d, rfl, hd⟩
      · rfl
      · have := not_isListDocument hlist (by decide)
        rw [Value.isListDocument, hd] at this
        cases this
  | elemMatch => rfl
  | unknown _ => rfl

theorem kept_of_keepsSpelling (levels : Nat) : ∀ d : Document,
    d.everyMember keepsSpelling = true → Kept .passthrough levels d := by
  induction levels with
  | zero =>
      intro d h
      cases d using Document.cases_members with
      | empty => exact .empty 0
      | single key value => exact .cut (key, value)
      | several d hd => exact .whole rfl hd
  | succ n ih =>
      intro d h
      cases d using Document.cases_members with
      | empty => exact .empty (n + 1)
      | single key value =>
          have hw := written_of_keepsSpelling (Shape.recognised key value) h
          have hvalue := (Document.everyMember_one h).2
          exact .member hw fun d hd =>
            ih d (Shape.everyMember_of_mem_documents hw hvalue d hd)
      | several d hd => exact .whole rfl hd

/-- A document of kept spelling comes back from the reader that leaves several members alone. -/
theorem toDocument_ofDocument_passthrough (maxDepth : Nat) (d : Document)
    (h : d.everyMember keepsSpelling = true) :
    (ofDocument ⟨.passthrough, maxDepth⟩ d).toDocument = d := by
  rw [ofDocument_eq, toDocument_eq]
  exact (kept_of_keepsSpelling maxDepth d h).restated_eq

/-- Known shapes inside each other, one of them too deep, and members of no known shape. -/
theorem toDocument_ofDocument_passthrough_nested :
    let d : Document := [("$or", .array [
      .document [("a", .document [("$elemMatch", .document [("b", .document [("$in",
        .array [.double ⟨0x7ff8000000000001⟩])])])])],
      .document [("c", .regex "x" "mi"), ("$where", .string "y")],
      .document [("$and", .document [("$eq", .document [("0", .null)])])]])]
    d.everyMember keepsSpelling = true ∧
      (ofDocument ⟨.passthrough, 2⟩ d).toDocument = d := by
  intro d
  have h : d.everyMember keepsSpelling = true := by decide
  exact ⟨h, toDocument_ofDocument_passthrough 2 d h⟩

end Filter
end DocFilter

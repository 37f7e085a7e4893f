import DocFilter.Proofs.Lossless
import DocFilter.Proofs.Nodes

/-! # Documents of filters

What a compiled document looks like when no node of the filter is raw: it has at most one member
(`length_compile_le_one`), and wherever the reader comes to in it, at any depth, it finds the
empty document or one member in the spelling of the compiler (`kept_compile`).  The reader does
not know most of the conditions again, and those that it knows may lie too deep, but the filter that
it makes of the document states the same document, in whatever way documents of several members are
read (`toDocument_ofDocument_toDocument`). -/

namespace DocFilter
namespace Filter

def isRaw : Filter → Bool
  | raw _ => true
  | _ => false

/-- Negation is put on the members, so it makes neither more nor fewer of them. -/
theorem length_negated (d : Document) : (negated d).length = d.length := by
  rw [negated, List.length_map]

theorem length_compile_le_one (f : Filter) :
    EveryNode (fun _ g => ¬ g.isRaw) f → f.compile.length ≤ 1 := by
  induction f using induction_children with
  | node f ih =>
      intro h
      obtain ⟨hroot, hbelow⟩ := (everyNode_iff _ f).mp h
      cases f with
      | not f =>
          rw [compile, length_negated]
          exact ih f (by simp [children]) (hbelow f (by simp [children]))
      | typeIs key type =>
          rw [compile, typeDocument]
          split <;> simp [typeClause, clause]
      | raw d => simp [isRaw] at hroot
      | _ => simp [compile, clause, GeoOperator.clause]

section
variable (multiKey : MultiKey) (levels : Nat) (key : String)

/-- What the reader does not know it keeps. -/
theorem kept_unknown {value : Value} (h : Shape.of key value = .unknown) :
    Kept multiKey levels [(key, value)] :=
  kept_one h rfl (by simp [Shape.documents]) levels

theorem kept_foreign {op : String} (h : ∀ operand, Shape.ofOperator op operand = .unknown)
    (h0 : op ≠ "0") (operand : Value) : Kept multiKey levels (clause key op operand) :=
  kept_unknown multiKey levels key (Shape.of_foreign h h0 key operand)

theorem kept_compare (op : Comparison) (value : Value) :
    Kept multiKey levels (clause key op.keyword value) :=
  kept_one (Shape.of_comparison op key value) rfl (by simp [Shape.documents]) levels

theorem kept_isIn (values : List Value) :
    Kept multiKey levels (clause key "$in" (.array values)) :=
  kept_one (Shape.of_membership key values) rfl (by simp [Shape.documents]) levels

theorem kept_elemMatch {d : Document} (h : ∀ levels, Kept multiKey levels d) :
    Kept multiKey levels (clause key "$elemMatch" (.document d)) := by
  refine kept_one (Shape.of_elemMatch key d) rfl ?_ levels
  intro e he
  rw [Shape.documents, List.mem_singleton] at he
  rw [he]
  exact h

theorem kept_group (c : Connective) {ds : List Document}
    (h : ∀ d ∈ ds, ∀ levels, Kept multiKey levels d) :
    Kept multiKey levels [(c.keyword, .array (ds.map .document))] :=
  kept_one (Shape.of_group c ds) rfl h levels

/-- A type check is not known to the reader, and the group for numbers is one of such checks. -/
theorem kept_typeDocument (type : ValueType) :
    Kept multiKey levels (typeDocument key type) := by
  have htype : ∀ t levels, Kept multiKey levels (typeClause key t) := fun t levels =>
    kept_foreign multiKey levels key (fun _ => rfl) (by decide) _
  unfold typeDocument
  split
  · have hnumeric : ∀ d ∈ ValueType.numeric.map (typeClause key), ∀ levels,
        Kept multiKey levels d := by
      intro d hd
      obtain ⟨t, _, rfl⟩ := List.mem_map.mp hd
      exact htype t
    have := kept_group multiKey levels .or hnumeric
    rwa [List.map_map] at this
  · exact htype type levels

/-- A negated member is never known. -/
theorem kept_negated {d : Document} (h : d.length ≤ 1) : Kept multiKey levels (negated d) := by
  obtain _ | ⟨⟨key, value⟩, _ | ⟨m', rest⟩⟩ := d
  · exact .empty levels
  · exact kept_foreign multiKey levels key (fun _ => rfl) (by decide) value
  · simp at h

theorem kept_geometry (op : GeoOperator) (g : Geometry) (max min : Option Double) :
    Kept multiKey levels (op.clause key g max min) := by
  have hop : ∀ operand, Shape.ofOperator op.keyword operand = .unknown := by
    intro operand
    obtain (_ | _) | _ | _ := op <;> rfl
  have h0 : op.keyword ≠ "0" := by
    obtain (_ | _) | _ | _ := op <;> decide
  exact kept_foreign multiKey levels key hop h0 _

end

/-- The induction is on the tree; a negation needs only that what it negates has one member. -/
theorem kept_compile (multiKey : MultiKey) (f : Filter) :
    EveryNode (fun _ g => ¬ g.isRaw) f → ∀ levels, Kept multiKey levels f.compile := by
  induction f using induction_children with
  | node f ih =>
      intro h levels
      obtain ⟨hroot, hbelow⟩ := (everyNode_iff _ f).mp h
      cases f with
      | nothing => rw [compile]; exact .empty levels
      | typeIs key type => rw [compile]; exact kept_typeDocument multiKey levels key type
      | compare op key value => rw [compile]; exact kept_compare multiKey levels key op value
      | elemMatch key f =>
          have hf : f ∈ (elemMatch key f).children := by simp [children]
          rw [compile]
          exact kept_elemMatch multiKey levels key (ih f hf (hbelow f hf))
      | group c fs =>
          have hfs : ∀ d ∈ fs.map compile, ∀ levels, Kept multiKey levels d := by
            intro d hd
            obtain ⟨f, hf, rfl⟩ := List.mem_map.mp hd
            exact ih f hf (hbelow f hf)
          rw [compile_group]
          exact kept_group multiKey levels c hfs
      | not f =>
          have hf : f ∈ (not f).children := by simp [children]
          rw [compile]
          exact kept_negated multiKey levels (length_compile_le_one f (hbelow f hf))
      | matching anchor key pattern options =>
          rw [compile]
          exact kept_unknown multiKey levels key (Shape.of_scalar key _)
      | raw d => simp [isRaw] at hroot
      | present key expected =>
          rw [compile]
          exact kept_foreign multiKey levels key (fun _ => rfl) (by decide) _
      | isIn key values => rw [compile]; exact kept_isIn multiKey levels key values
      | near metric key center max min =>
          rw [compile]
          exact kept_geometry multiKey levels key _ _ _ _
      | within key area => rw [compile]; exact kept_geometry multiKey levels key _ _ _ _
      | intersects key g => rw [compile]; exact kept_geometry multiKey levels key _ _ _ _

/-- The document of a filter without raw nodes comes back from the reader, which makes the same
filter of it in both ways to read several members. -/
theorem toDocument_ofDocument_toDocument (f : Filter) (h : EveryNode (fun _ g => ¬ g.isRaw) f)
    (maxDepth : Nat) :
    (∀ multiKey, (ofDocument ⟨multiKey, maxDepth⟩ f.toDocument).toDocument = f.toDocument) ∧
      ofDocument ⟨.passthrough, maxDepth⟩ f.toDocument =
        ofDocument ⟨.conjunction, maxDepth⟩ f.toDocument := by
  rw [toDocument_eq]
  constructor
  · intro multiKey
    rw [ofDocument_eq, toDocument_eq]
    exact (kept_compile multiKey f h maxDepth).restated_eq
  · rw [ofDocument_eq, ofDocument_eq]
    exact (kept_compile .conjunction f h maxDepth).readDocument_eq

/-- A negated group under a comparison of array elements, a check for numbers, a pattern on a key
that is a connective, and a limit that cuts off what is inside. -/
theorem toDocument_ofDocument_toDocument_negations :
    let f : Filter := group .or
      [not (not (group .and [present "a" true])), typeIs "$and" .number, nothing,
        elemMatch "b" (not (elemMatch "c" (compare .lt "d" (.document [("$neq", .null)])))),
        matching .lineEnd "$or" "x" "mi"]
    EveryNode (fun _ g => ¬ g.isRaw) f ∧
      (∀ multiKey, (ofDocument ⟨multiKey, 1⟩ f.toDocument).toDocument = f.toDocument) ∧
      ofDocument ⟨.passthrough, 1⟩ f.toDocument = ofDocument ⟨.conjunction, 1⟩ f.toDocument := by
  intro f
  have h : EveryNode (fun _ g => ¬ g.isRaw) f := by decide
  exact ⟨h, toDocument_ofDocument_toDocument f h 1⟩

end Filter
end DocFilter

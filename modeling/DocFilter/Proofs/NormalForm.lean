import DocFilter.Field
import DocFilter.Proofs.Operands
import DocFilter.Proofs.Parts
import DocFilter.Query

/-! # The normal form of combined filters

Filters that are put together by the combinators and the operators, from empty conditions and
leaves, are `Built`.  They are exactly the normal ones: a group has two conditions or more, none of
which is empty or a group of its own kind, and an empty condition is not negated
(`built_iff_normal`).  One step of building keeps the normal form (`normal_join`, `normal_joinAll`,
`normal_negate`), and every normal filter can be built from its children by one step.

So no list of a group that is compiled is empty, has one item, or holds the document of an empty
condition.  The list is in the document of the whole filter, whatever negations stand above the
group (`Filter.exists_inside_of_nodeAt`). -/

namespace DocFilter
namespace Filter

/-- Whether a filter is a condition that is not put together from others. -/
def isLeaf : Filter → Bool
  | nothing | elemMatch .. | group .. | not _ => false
  | _ => true

/-- The filters that the combinators and the operators build from empty conditions and leaves, as
filters or as queries. -/
inductive Built : Filter → Prop
  | nothing : Built nothing
  | leaf {f : Filter} : f.isLeaf = true → Built f
  | and {f g : Filter} : Built f → Built g → Built (f.and g)
  | or {f g : Filter} : Built f → Built g → Built (f.or g)
  | negate {f : Filter} : Built f → Built f.negate
  | andOp {f g : Filter} : Built f → Built g → Built (f &&& g)
  | orOp {f g : Filter} : Built f → Built g → Built (f ||| g)
  | complement {f : Filter} : Built f → Built (~~~f)
  | andAssign {f g : Filter} : Built f → Built g → Built (f.andAssign g)
  | orAssign {f g : Filter} : Built f → Built g → Built (f.orAssign g)
  | allOf {fs : List Filter} : (∀ f ∈ fs, Built f) → Built (allOf fs)
  | anyOf {fs : List Filter} : (∀ f ∈ fs, Built f) → Built (anyOf fs)
  | elemMatch (field : Field) {f : Filter} : Built f → Built (field.elemMatch f)
  | queryAll : Built Query.all.filter
  | queryAnd {q : Query} {f : Filter} : Built q.filter → Built f → Built (q.and f).filter
  | queryOr {q : Query} {f : Filter} : Built q.filter → Built f → Built (q.or f).filter
  | queryNegate {q : Query} : Built q.filter → Built q.negate.filter
  | queryAndOp {q : Query} {f : Filter} : Built q.filter → Built f → Built (q &&& f).filter
  | queryOrOp {q : Query} {f : Filter} : Built q.filter → Built f → Built (q ||| f).filter
  | queryComplement {q : Query} : Built q.filter → Built (~~~q).filter
  | queryAndAssign {q : Query} {f : Filter} :
      Built q.filter → Built f → Built (q.andAssign f).filter
  | queryOrAssign {q : Query} {f : Filter} :
      Built q.filter → Built f → Built (q.orAssign f).filter

/-- What the normal form asks of a node and the filters right below it. -/
def IsNormalNode : Filter → Prop
  | group c fs => 2 ≤ fs.length ∧ ∀ f ∈ fs, f.IsSingle c
  | not f => f.isNothing = false
  | _ => True

instance : DecidablePred IsNormalNode
  | group c fs => inferInstanceAs (Decidable (2 ≤ fs.length ∧ ∀ f ∈ fs, f.IsSingle c))
  | not f => inferInstanceAs (Decidable (f.isNothing = false))
  | nothing | typeIs .. | compare .. | elemMatch .. | matching .. | raw _ | present .. | isIn ..
  | near .. | within .. | intersects .. => isTrue trivial

def Normal (f : Filter) : Prop := EveryNode (fun _ g => g.IsNormalNode) f

instance (f : Filter) : Decidable f.Normal :=
  inferInstanceAs (Decidable (EveryNode (fun _ g => g.IsNormalNode) f))

theorem normal_iff (f : Filter) : Normal f ↔ f.IsNormalNode ∧ ∀ g ∈ f.children, Normal g :=
  everyNode_iff _ f

theorem normal_group_iff {c : Connective} {fs : List Filter} :
    Normal (group c fs) ↔ 2 ≤ fs.length ∧ ∀ f ∈ fs, f.IsSingle c ∧ Normal f := by
  rw [normal_iff, IsNormalNode, children, and_assoc, forall₂_and]

theorem normal_of_isLeaf {f : Filter} (h : f.isLeaf = true) : Normal f := by
  rw [normal_iff]
  cases f <;> first | exact ⟨trivial, fun g hg => absurd hg List.not_mem_nil⟩ | cases h

theorem normal_nothing : Normal nothing :=
  (normal_iff _).mpr ⟨trivial, fun _ hg => absurd hg List.not_mem_nil⟩

/-! ### One step of building -/

section
variable {c : Connective} {f g : Filter}

/-- What a normal filter gives to a join can stand in a normal group. -/
theorem single_and_normal_of_mem_operands (hf : Normal f) :
    ∀ g ∈ operands c f, g.IsSingle c ∧ Normal g := by
  cases f using cases_operand c with
  | empty => exact fun g hg => absurd hg List.not_mem_nil
  | group fs =>
      rw [operands_group]
      exact (normal_group_iff.mp hf).2
  | single f hsingle =>
      intro g hg
      rw [hsingle.operands_eq, List.mem_singleton] at hg
      rw [hg]
      exact ⟨hsingle, hf⟩

theorem one_le_length_operands (hf : Normal f) (hne : f.isNothing = false) :
    1 ≤ (operands c f).length := by
  cases f using cases_operand c with
  | empty => cases hne
  | group fs =>
      rw [operands_group]
      exact Nat.le_of_succ_le (normal_group_iff.mp hf).1
  | single f hsingle => simp [hsingle.operands_eq]

/-- A join keeps the normal form.  If neither side is empty it is the group of the operands of
both. -/
theorem normal_join (c : Connective) (hf : Normal f) (hg : Normal g) : Normal (join c f g) := by
  cases hfn : f.isNothing with
  | true => rwa [isNothing_eq_true_iff.mp hfn, nothing_join]
  | false =>
      cases hgn : g.isNothing with
      | true => rwa [isNothing_eq_true_iff.mp hgn, join_nothing]
      | false =>
          have hperm := operands_join_perm c f g
          rw [join_eq_group hfn hgn, normal_group_iff]
          refine ⟨?_, fun h hh => ?_⟩
          · have hflen := one_le_length_operands (c := c) hf hfn
            have hglen := one_le_length_operands (c := c) hg hgn
            rw [hperm.length_eq, List.length_append]
            omega
          · rcases List.mem_append.mp (hperm.mem_iff.mp hh) with hh | hh
            · exact single_and_normal_of_mem_operands hf h hh
            · exact single_and_normal_of_mem_operands hg h hh

theorem normal_joinAll (c : Connective) {fs : List Filter} (h : ∀ f ∈ fs, Normal f) :
    Normal (joinAll c fs) := by
  -- What was joined so far is any normal filter.
  suffices hfold : ∀ f, Normal f → Normal (fs.foldl (join c) f) from hfold nothing normal_nothing
  induction fs with
  | nil => exact fun f hf => hf
  | cons g fs ih =>
      intro f hf
      obtain ⟨hg, hfs⟩ := List.forall_mem_cons.mp h
      exact ih hfs _ (normal_join c hf hg)

theorem normal_negate (hf : Normal f) : Normal f.negate := by
  rw [negate]
  cases hne : f.isNothing with
  | true => exact normal_nothing
  | false =>
      refine (normal_iff _).mpr ⟨hne, fun g hg => ?_⟩
      rwa [List.mem_singleton.mp hg]

theorem normal_elemMatch (key : String) (hf : Normal f) : Normal (elemMatch key f) := by
  refine (normal_iff _).mpr ⟨trivial, fun g hg => ?_⟩
  rwa [List.mem_singleton.mp hg]

end

theorem normal_of_built {f : Filter} (h : Built f) : Normal f := by
  induction h with
  | nothing | queryAll => exact normal_nothing
  | leaf hleaf => exact normal_of_isLeaf hleaf
  | and _ _ hf hg | andOp _ _ hf hg | andAssign _ _ hf hg => exact normal_join .and hf hg
  | or _ _ hf hg | orOp _ _ hf hg | orAssign _ _ hf hg => exact normal_join .or hf hg
  | negate _ hf | complement _ hf => exact normal_negate hf
  | allOf _ hfs => exact normal_joinAll .and hfs
  | anyOf _ hfs => exact normal_joinAll .or hfs
  | elemMatch field _ hf => exact normal_elemMatch field.key hf
  | queryAnd _ _ hq hf | queryAndOp _ _ hq hf | queryAndAssign _ _ hq hf =>
      exact normal_join .and hq hf
  | queryOr _ _ hq hf | queryOrOp _ _ hq hf | queryOrAssign _ _ hq hf =>
      exact normal_join .or hq hf
  | queryNegate _ hq | queryComplement _ hq => exact normal_negate hq

/-! ### Building normal filters -/

theorem flatMap_operands_of_single {c : Connective} {fs : List Filter}
    (h : ∀ f ∈ fs, f.IsSingle c) : fs.flatMap (operands c) = fs := by
  have hmap : fs.flatMap (operands c) = fs.flatMap fun f => [f] :=
    List.flatMap_congr fun f hf => (h f hf).operands_eq
  rw [hmap, List.flatMap_singleton']

/-- Joining the conditions of a normal group gives the group. -/
theorem joinAll_of_single {c : Connective} {fs : List Filter} (hlen : 2 ≤ fs.length)
    (h : ∀ f ∈ fs, f.IsSingle c) : joinAll c fs = group c fs := by
  obtain _ | ⟨f, _ | ⟨g, rest⟩⟩ := fs
  · simp at hlen
  · simp at hlen
  · have hrest : ∀ x ∈ rest, x.IsSingle c := fun x hx => h x (by simp [hx])
    rw [joinAll, List.foldl_cons, List.foldl_cons, nothing_join,
      join_single_single (h f (by simp)) (h g (by simp)), foldl_join_group,
      flatMap_operands_of_single hrest]
    rfl

theorem built_of_normal (f : Filter) : Normal f → Built f := by
  induction f using induction_children with
  | node f ih =>
      intro hf
      obtain ⟨hnode, hbelow⟩ := (normal_iff f).mp hf
      have hbuilt : ∀ g ∈ f.children, Built g := fun g hg => ih g hg (hbelow g hg)
      cases f with
      | nothing => exact .nothing
      | elemMatch key f => exact .elemMatch ⟨key⟩ (hbuilt f (by simp [children]))
      | not f =>
          have hnegate : f.negate = not f := by
            rw [negate, show f.isNothing = false from hnode]
            rfl
          rw [← hnegate]
          exact .negate (hbuilt f (by simp [children]))
      | group c fs =>
          obtain ⟨hlen, hsingle⟩ : 2 ≤ fs.length ∧ ∀ f ∈ fs, f.IsSingle c := hnode
          rw [← joinAll_of_single hlen hsingle]
          cases c with
          | and => exact .allOf hbuilt
          | or => exact .anyOf hbuilt
      | _ => exact .leaf rfl

/-! ### Lists that are compiled -/

/-- What is in the document of a child is in the document of its node, also under negations. -/
theorem exists_inside_of_mem_children {f g : Filter} (hg : g ∈ f.children) :
    ∀ v ∈ g.compile.values, ∃ w ∈ f.compile.values, v.Inside w := by
  intro v hv
  have hdocument : v.Inside (.document g.compile) := .part hv .here
  cases f with
  | elemMatch key f =>
      obtain rfl := List.mem_singleton.mp hg
      refine ⟨.document [("$elemMatch", .document g.compile)], ?_, .part ?_ hdocument⟩
      · simp [compile, clause, Document.values]
      · simp [Value.parts, Document.values]
  | group c fs =>
      refine ⟨.array (compileAll fs), by simp [compile, Document.values], .part ?_ hdocument⟩
      rw [compileAll_eq_map]
      exact List.mem_map_of_mem hg
  | not f =>
      obtain rfl := List.mem_singleton.mp hg
      obtain ⟨⟨key, v⟩, hm, rfl⟩ := List.mem_map.mp hv
      refine ⟨.document [("$not", v)], ?_, .part ?_ .here⟩
      · rw [compile, negated, Document.values, List.map_map]
        exact List.mem_map_of_mem hm
      · simp [Value.parts, Document.values]
  | _ => cases hg

theorem exists_inside_of_nodeAt {f g : Filter} {i : Nat} (h : NodeAt f i g) :
    ∀ v ∈ g.compile.values, ∃ w ∈ f.compile.values, v.Inside w := by
  induction h with
  | root f => exact fun v hv => ⟨v, hv, .here⟩
  | child hmem _ ih =>
      intro v hv
      obtain ⟨u, hu, hvu⟩ := ih v hv
      obtain ⟨w, hw, huw⟩ := exists_inside_of_mem_children hmem u hu
      exact ⟨w, hw, hvu.trans huw⟩

/-- What can be built is what is normal.  The list that a group of it is compiled to, which is in
the document of the whole, has two items or more, each the document of a condition that is not
empty. -/
theorem built_iff_normal (f : Filter) :
    (Built f ↔ Normal f) ∧
    (Built f → ∀ i c fs, NodeAt f i (group c fs) → ∃ items : List Value,
      (group c fs).toDocument = [(c.keyword, .array items)] ∧
      (∃ v ∈ f.toDocument.values, (Value.array items).Inside v) ∧ 2 ≤ items.length ∧
      List.Forall₂ (fun item g => item = .document g.toDocument ∧ g.isNothing = false) items fs) := by
  refine ⟨⟨normal_of_built, built_of_normal f⟩, fun hbuilt i c fs hnode => ?_⟩
  obtain ⟨hlen, hsingle⟩ : 2 ≤ fs.length ∧ ∀ f ∈ fs, f.IsSingle c :=
    normal_of_built hbuilt i _ hnode
  refine ⟨compileAll fs, by rw [toDocument_eq, compile], ?_, ?_, ?_⟩
  · refine exists_inside_of_nodeAt hnode _ ?_
    simp [compile, Document.values]
  · rwa [compileAll_eq_map, List.length_map]
  · rw [compileAll_eq_map, List.forall₂_map_left_iff, List.forall₂_same]
    exact fun g hg => ⟨rfl, (hsingle g hg).1⟩

/-- A conjunction under a negation, from a query with empty conditions on the way, and a group with
one condition, which cannot be built. -/
theorem built_iff_normal_negated :
    let a : Filter := present "a" true
    let q : Query := (((Query.all.and a).or nothing).and (raw [])).negate
    let f : Filter := anyOf [nothing, q.filter, (Field.mk "b").elemMatch nothing]
    f = group .or [not (group .and [a, raw []]), elemMatch "b" nothing] ∧ Built f ∧ Normal f ∧
      (∃ items : List Value, (group .and [a, raw []]).toDocument = [("$and", .array items)] ∧
        (∃ v ∈ f.toDocument.values, (Value.array items).Inside v) ∧ 2 ≤ items.length) ∧
      ¬ Built (group .or [a]) := by
  intro a q f
  have hq : Built q.filter :=
    .queryNegate (.queryAnd (.queryOr (.queryAnd .queryAll (.leaf rfl)) .nothing) (.leaf rfl))
  have hfs : ∀ g ∈ [nothing, q.filter, (Field.mk "b").elemMatch nothing], Built g := by
    simp only [List.forall_mem_cons]
    exact ⟨.nothing, hq, .elemMatch _ .nothing, fun g hg => absurd hg List.not_mem_nil⟩
  have hf : Built f := .anyOf hfs
  have hnode : NodeAt f 2 (group .and [a, raw []]) :=
    .child List.mem_cons_self (.child List.mem_cons_self (.root _))
  obtain ⟨hiff, hlists⟩ := built_iff_normal f
  obtain ⟨items, hitems, hinside, hlen, _⟩ := hlists hf 2 .and _ hnode
  refine ⟨rfl, hf, hiff.mp hf, ⟨items, hitems, hinside, hlen⟩, ?_⟩
  rw [(built_iff_normal (group .or [a])).1]
  decide

end Filter
end DocFilter

import DocFilter.Filter.Basic

/-! # The nodes of a filter

A filter is a tree.  `NodeAt f i g` says that `g` stands in `f` at depth `i`, with `f` itself at
depth 0, and `EveryNode p f` that all nodes have a property, which may speak of their depths.  It is
proved and used one level at a time (`everyNode_iff`), and so are all statements about filters that
pass from the children of a node to the node (`induction_children`). -/

namespace DocFilter
namespace Filter

/-- The filters right below a node. -/
def children : Filter → List Filter
  | elemMatch _ f | not f => [f]
  | group _ fs => fs
  | _ => []

theorem sizeOf_lt_of_mem_children {f g : Filter} (h : g ∈ f.children) : sizeOf g < sizeOf f := by
  cases f with
  | elemMatch key f =>
      rw [children, List.mem_singleton] at h
      rw [h, elemMatch.sizeOf_spec]
      omega
  | not f =>
      rw [children, List.mem_singleton] at h
      rw [h, not.sizeOf_spec]
      omega
  | group c fs =>
      have := List.sizeOf_lt_of_mem (show g ∈ fs from h)
      rw [group.sizeOf_spec]
      omega
  | _ => cases h

/-- What passes from the children of every node to the node holds of all filters. -/
@[elab_as_elim]
theorem induction_children {P : Filter → Prop} (node : ∀ f, (∀ g ∈ f.children, P g) → P f)
    (f : Filter) : P f :=
  node f fun g hg =>
    have := sizeOf_lt_of_mem_children hg
    induction_children node g
termination_by sizeOf f

/-- The nodes of a filter with their depths. -/
inductive NodeAt : Filter → Nat → Filter → Prop
  | root (f : Filter) : NodeAt f 0 f
  | child {f g h : Filter} {i : Nat} : g ∈ f.children → NodeAt g i h → NodeAt f (i + 1) h

/-- All nodes have a property, which may depend on the depth. -/
def EveryNode (p : Nat → Filter → Prop) (f : Filter) : Prop := ∀ i g, NodeAt f i g → p i g

theorem everyNode_iff (p : Nat → Filter → Prop) (f : Filter) :
    EveryNode p f ↔ p 0 f ∧ ∀ g ∈ f.children, EveryNode (fun i => p (i + 1)) g := by
  constructor
  · intro h
    exact ⟨h 0 f (.root f), fun g hg i k hk => h (i + 1) k (.child hg hk)⟩
  · rintro ⟨hroot, hbelow⟩ i g hg
    cases hg with
    | root => exact hroot
    | child hmem hnode => exact hbelow _ hmem _ _ hnode

/-! ### Checking all nodes -/

mutual
/-- Whether a test holds at all nodes of a filter that stands at depth `i`. -/
def checkNodes (p : Nat → Filter → Bool) (i : Nat) : Filter → Bool
  | elemMatch key f => p i (elemMatch key f) && checkNodes p (i + 1) f
  | not f => p i (not f) && checkNodes p (i + 1) f
  | group c fs => p i (group c fs) && checkAll p (i + 1) fs
  | f => p i f

def checkAll (p : Nat → Filter → Bool) (i : Nat) : List Filter → Bool
  | [] => true
  | f :: fs => checkNodes p i f && checkAll p i fs
end

theorem checkAll_iff (p : Nat → Filter → Bool) (i : Nat) (fs : List Filter) :
    checkAll p i fs = true ↔ ∀ f ∈ fs, checkNodes p i f = true := by
  induction fs with
  | nil => simp [checkAll]
  | cons f fs ih => simp [checkAll, ih]

theorem checkNodes_iff (p : Nat → Filter → Bool) (i : Nat) (f : Filter) :
    checkNodes p i f = true ↔
      p i f = true ∧ ∀ g ∈ f.children, checkNodes p (i + 1) g = true := by
  cases f with
  | group c fs => rw [checkNodes, Bool.and_eq_true, checkAll_iff]; rfl
  | _ => simp [checkNodes, children]

theorem checkNodes_iff_everyNode (p : Nat → Filter → Bool) (f : Filter) : ∀ i,
    checkNodes p i f = true ↔ EveryNode (fun j g => p (i + j) g = true) f := by
  induction f using induction_children with
  | node f ih =>
      intro i
      rw [checkNodes_iff, everyNode_iff]
      refine and_congr Iff.rfl (forall_congr' fun g => forall_congr' fun hg => ?_)
      rw [ih g hg (i + 1)]
      simp only [Nat.add_assoc, Nat.add_comm 1]

instance (p : Nat → Filter → Prop) [∀ i g, Decidable (p i g)] (f : Filter) :
    Decidable (EveryNode p f) :=
  decidable_of_iff (checkNodes (fun i g => decide (p i g)) 0 f) (by
    rw [checkNodes_iff_everyNode]
    simp)

end Filter
end DocFilter

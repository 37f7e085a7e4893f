import DocFilter.Proofs.Nodes
import DocFilter.Proofs.Reading

/-! # Reading what was compiled

The reader has a shape for groups, for conditions on array elements, for comparisons and for
membership.  A filter of nothing but these, and of empty conditions, is read back from its document,
whatever its keys and values are, when the reader goes deep enough for all of its nodes
(`ofDocument_toDocument`).  Empty conditions take no level: the empty document is read at any
depth. -/

namespace DocFilter
namespace Filter

/-- Whether the reader has a shape for the node itself. -/
def isReadable : Filter → Bool
  | nothing | compare .. | elemMatch .. | group .. | isIn .. => true
  | _ => false

section
variable (multiKey : MultiKey) (levels : Nat)

theorem readDocument_compare (op : Comparison) (key : String) (value : Value) :
    readDocument multiKey (levels + 1) (compare op key value).compile =
      compare op key value := by
  rw [compile, clause, readDocument_one_succ, Shape.of_comparison, ofShape]

theorem readDocument_isIn (key : String) (values : List Value) :
    readDocument multiKey (levels + 1) (isIn key values).compile = isIn key values := by
  rw [compile, clause, readDocument_one_succ, Shape.of_membership, ofShape]

theorem readDocument_elemMatch (key : String) (f : Filter) :
    readDocument multiKey (levels + 1) (elemMatch key f).compile =
      elemMatch key (readDocument multiKey levels f.compile) := by
  rw [compile, clause, readDocument_one_succ, Shape.of_elemMatch, ofShape]

theorem readDocument_group (c : Connective) (fs : List Filter) :
    readDocument multiKey (levels + 1) (group c fs).compile =
      group c (fs.map fun f => readDocument multiKey levels f.compile) := by
  rw [compile_group, readDocument_one_succ, Shape.of_group, ofShape, List.map_map]
  rfl

end

/-- The induction is on the levels that are left.  With none left the filter can only be empty. -/
theorem readDocument_compile (multiKey : MultiKey) (levels : Nat) : ∀ f : Filter,
    EveryNode (fun _ g => g.isReadable) f → EveryNode (fun i g => ¬ g.isNothing → i < levels) f →
    readDocument multiKey levels f.compile = f := by
  induction levels with
  | zero =>
      intro f _ hdepth
      have hroot := ((everyNode_iff _ f).mp hdepth).1
      cases f with
      | nothing => rw [compile, readDocument_nil]
      | _ => exact absurd (hroot (by simp [isNothing])) (by omega)
  | succ n ih =>
      intro f hread hdepth
      obtain ⟨hreadRoot, hreadBelow⟩ := (everyNode_iff _ f).mp hread
      obtain ⟨_, hdepthBelow⟩ := (everyNode_iff _ f).mp hdepth
      have child : ∀ g ∈ f.children, readDocument multiKey n g.compile = g := by
        intro g hg
        refine ih g (hreadBelow g hg) ?_
        intro i h hh hne
        have := hdepthBelow g hg i h hh hne
        omega
      cases f with
      | nothing => rw [compile, readDocument_nil]
      | compare op key value => exact readDocument_compare multiKey n op key value
      | isIn key values => exact readDocument_isIn multiKey n key values
      | elemMatch key f =>
          rw [readDocument_elemMatch, child f (by simp [children])]
      | group c fs =>
          have hmap : fs.map (fun f => readDocument multiKey n f.compile) = fs.map id :=
            List.map_congr_left child
          rw [readDocument_group, hmap, List.map_id]
      | _ => cases hreadRoot

/-- A filter of readable nodes above the depth limit is read back from its document. -/
theorem ofDocument_toDocument (config : ParseConfig) (f : Filter)
    (hread : EveryNode (fun _ g => g.isReadable) f)
    (hdepth : EveryNode (fun i g => ¬ g.isNothing → i < config.maxDepth) f) :
    ofDocument config f.toDocument = f := by
  rw [ofDocument_eq, toDocument_eq]
  exact readDocument_compile config.multiKey config.maxDepth f hread hdepth

/-- Keys and values that look like filters are not taken for them, and an empty condition may stand
at the limit. -/
theorem ofDocument_toDocument_filter_keys :
    let f : Filter := group .and
      [compare .ne "$or" (.document [("$and", .array [.document []])]), elemMatch "" nothing,
        group .or [], isIn "$in" [.document [("$neq", .null)]], nothing]
    EveryNode (fun _ g => g.isReadable) f ∧ EveryNode (fun i g => ¬ g.isNothing → i < 2) f ∧
      ofDocument ⟨.conjunction, 2⟩ f.toDocument = f := by
  intro f
  have hread : EveryNode (fun _ g => g.isReadable) f := by decide
  have hdepth : EveryNode (fun i g => ¬ g.isNothing → i < 2) f := by decide
  exact ⟨hread, hdepth, ofDocument_toDocument ⟨.conjunction, 2⟩ f hread hdepth⟩

end Filter
end DocFilter

import DocFilter.Proofs.Nodes
import DocFilter.Proofs.Reading

/-! # The depth limit

How far down a filter goes that was read, and what the reader leaves raw in it.  A node at the limit
or below is one that the reader did not look into (`Unread`).  Above the limit it keeps a document
raw for a reason of its own (`LeftAlone`): the document has several members that are not to be
broken up, or a single one that no rule recognises.

`Limited` says both of a node and its depth.  It is carried down the tree one level at a time, a
level of the tree for a level of the reader (`limited_readDocument`), and bounds the tree with it
(`limited_ofDocument`): what is not looked into has at most the members of one conjunction below
it. -/

namespace DocFilter
namespace Filter

/-- What stands where the reader has no levels left: no condition, a raw document, or the
conjunction of several members, each of them raw. -/
inductive Unread (multiKey : MultiKey) : Filter → Prop
  | nothing : Unread multiKey nothing
  | raw (d : Document) : Unread multiKey (raw d)
  | members {d : Document} : multiKey = .conjunction → 1 < d.length →
      Unread multiKey (group .and (d.map rawMember))

/-- The documents that the reader keeps raw although it has levels left. -/
inductive LeftAlone (multiKey : MultiKey) : Document → Prop
  | several {d : Document} : multiKey = .passthrough → 1 < d.length → LeftAlone multiKey d
  | single {key : String} {value : Value} : ¬ Shape.IsListing key value → ¬ Shape.IsOperation value →
      LeftAlone multiKey [(key, value)]

/-- What a node can be in a filter that was read with this many levels. -/
structure Limited (multiKey : MultiKey) (levels depth : Nat) (f : Filter) : Prop where
  below : levels ≤ depth → Unread multiKey f
  above : depth < levels → ∀ d, f = raw d → LeftAlone multiKey d

/-- How many levels a filter may reach below the limit. -/
def overhang : MultiKey → Nat
  | .passthrough => 0
  | .conjunction => 1

/-! ### Nodes of filters that were read -/

theorem everyNode_leaf {p : Nat → Filter → Prop} {f : Filter} (hleaf : f.children = []) (h : p 0 f) :
    EveryNode p f := by
  rw [everyNode_iff, hleaf]
  exact ⟨h, nofun⟩

theorem children_ofShape (read : Document → Filter) (member : String × Value) (s : Shape) :
    (ofShape read member s).children = s.documents.map read := by
  cases s <;> rfl

theorem everyNode_ofShape (p : Nat → Filter → Prop) (read : Document → Filter)
    (member : String × Value) (s : Shape) :
    EveryNode p (ofShape read member s) ↔
      p 0 (ofShape read member s) ∧ ∀ d ∈ s.documents, EveryNode (fun i => p (i + 1)) (read d) := by
  rw [everyNode_iff, children_ofShape, List.forall_mem_map]

theorem everyNode_conjunction (p : Nat → Filter → Prop) (levels : Nat) {d : Document}
    (h : 1 < d.length) :
    EveryNode p (readDocument .conjunction levels d) ↔
      p 0 (readDocument .conjunction levels d) ∧
        ∀ m ∈ d, EveryNode (fun i => p (i + 1)) (readDocument .conjunction (levels - 1) [m]) := by
  rw [everyNode_iff, readDocument_conjunction levels h, children, List.forall_mem_map]

/-- Between a node and the root there is a node at every depth. -/
theorem NodeAt.exists_above {f h : Filter} {i j : Nat} (hnode : NodeAt f i h) (hj : j ≤ i) :
    ∃ g, NodeAt f j g ∧ NodeAt g (i - j) h := by
  induction hnode generalizing j with
  | root f =>
      obtain rfl : j = 0 := by omega
      exact ⟨f, .root f, .root f⟩
  | @child f g h i hmem hnode ih =>
      cases j with
      | zero => exact ⟨f, .root f, .child hmem hnode⟩
      | succ j =>
          obtain ⟨k, habove, hbelow⟩ := ih (j := j) (by omega)
          refine ⟨k, .child hmem habove, ?_⟩
          rwa [Nat.add_sub_add_right]

/-! ### What the reader leaves -/

section
variable {multiKey : MultiKey} {levels depth : Nat} {f : Filter}

/-- One level down in the tree a level less is left, as long as there is one. -/
theorem Limited.down (h : Limited multiKey (levels - 1) depth f) :
    Limited multiKey levels (depth + 1) f :=
  ⟨fun hle => h.below (by omega), fun hlt => h.above (by omega)⟩

theorem limited_nothing : Limited multiKey levels depth nothing :=
  ⟨fun _ => .nothing, fun _ _ h => nomatch h⟩

/-- A raw document is limited where there is a reason to keep it, which below the limit is the limit
itself. -/
theorem limited_raw {d : Document} (h : depth < levels → LeftAlone multiKey d) :
    Limited multiKey levels depth (raw d) := by
  refine ⟨fun _ => .raw d, fun hlt e he => ?_⟩
  cases he
  exact h hlt

/-- Above the limit only a member that no rule recognises is raw. -/
theorem limited_ofShape (read : Document → Filter) (key : String) (value : Value) :
    Limited multiKey (levels + 1) 0 (ofShape read (key, value) (Shape.of key value)) := by
  refine ⟨fun hle => absurd hle (by omega), fun _ e he => ?_⟩
  cases hs : Shape.of key value with
  | unknown =>
      rw [hs, ofShape, rawMember, raw.injEq] at he
      obtain ⟨hlisting, hoperation⟩ := (Shape.of_eq_unknown_iff key value).mp hs
      subst he
      exact .single hlisting hoperation
  | _ => rw [hs] at he; cases he

/-- A conjunction of members may stand at the limit, where the members are raw. -/
theorem limited_conjunction {d : Document} (h : 1 < d.length) :
    Limited .conjunction levels 0 (readDocument .conjunction levels d) := by
  rw [readDocument_conjunction levels h]
  refine ⟨fun hle => ?_, fun _ e he => nomatch he⟩
  obtain rfl : levels = 0 := by omega
  have hraw : d.map (fun m => readDocument .conjunction 0 [m]) = d.map rawMember :=
    List.map_congr_left fun m _ => readDocument_one_zero .conjunction m
  rw [Nat.zero_sub, hraw]
  exact .members rfl h

end

/-- Each level of the tree spends one of the levels that are left. -/
theorem limited_readDocument (multiKey : MultiKey) (levels : Nat) (d : Document) :
    EveryNode (Limited multiKey levels) (readDocument multiKey levels d) := by
  induction levels, d using induction_levels with
  | empty levels => exact everyNode_leaf rfl limited_nothing
  | cut key value =>
      rw [readDocument_one_zero]
      exact everyNode_leaf rfl (limited_raw fun hlt => absurd hlt (by omega))
  | member levels key value ih =>
      rw [readDocument_one_succ, everyNode_ofShape]
      exact ⟨limited_ofShape _ key value, fun d hd i f hnode => .down (ih d hd i f hnode)⟩
  | several levels d hd ih =>
      cases multiKey with
      | passthrough =>
          rw [readDocument_passthrough levels hd]
          exact everyNode_leaf rfl (limited_raw fun _ => .several rfl hd)
      | conjunction =>
          rw [everyNode_conjunction _ levels hd]
          exact ⟨limited_conjunction hd, fun m hm i f hnode => .down (ih m hm i f hnode)⟩

/-- Below what is not looked into there are at most the members of one conjunction. -/
theorem Unread.depth_le {multiKey : MultiKey} {f g : Filter} {i : Nat} (h : Unread multiKey f)
    (hnode : NodeAt f i g) : i ≤ overhang multiKey := by
  cases hnode with
  | root => exact Nat.zero_le _
  | child hmem hnode =>
      cases h with
      | nothing => cases hmem
      | raw d => cases hmem
      | members hm _ =>
          obtain ⟨m, _, rfl⟩ := List.mem_map.mp hmem
          cases hnode with
          | root => rw [hm]; exact Nat.le_refl 1
          | child hmem _ => cases hmem

/-- The limit bounds every filter that is read: nodes at the limit or below are unread, documents
are raw above it for a reason of their own, and no path is longer than the limit, or one level
longer where several members are read as a conjunction. -/
theorem limited_ofDocument (config : ParseConfig) (d : Document) :
    EveryNode (Limited config.multiKey config.maxDepth) (ofDocument config d) ∧
      EveryNode (fun i _ => i ≤ config.maxDepth + overhang config.multiKey) (ofDocument config d) := by
  have hlimited : EveryNode (Limited config.multiKey config.maxDepth) (ofDocument config d) := by
    rw [ofDocument_eq]
    exact limited_readDocument config.multiKey config.maxDepth d
  refine ⟨hlimited, fun i g hnode => ?_⟩
  rcases Nat.le_total i config.maxDepth with hle | hle
  · omega
  · obtain ⟨h, habove, hbelow⟩ := hnode.exists_above hle
    have := ((hlimited _ h habove).below (Nat.le_refl _)).depth_le hbelow
    omega

/-- The members of a conjunction that stands at the limit are one level below it. -/
example : ofDocument ⟨.conjunction, 1⟩
      [("$or", .array [.document [("x", .null), ("y", .null)]])] =
    group .or [group .and [raw [("x", .null)], raw [("y", .null)]]] := by
  rfl

end Filter
end DocFilter

import DocFilter.Filter.Equality
import DocFilter.Proofs.Nodes

/-! # Sameness of filters

Every filter is the same as itself (`same_self`), also where its values have no binary form, and
groups with different conditions at some place are different (`allSame_map_eq_false`). -/

namespace DocFilter

theorem Value.equal_self (v : Value) : v.equal v = true := by
  unfold Value.equal
  split
  · next x y hx hy =>
    rw [hx] at hy
    cases hy
    exact beq_self_eq_true x
  · exact beq_self_eq_true v

theorem Document.sameMembers_self (d : Document) : d.sameMembers d = true := by
  induction d with
  | nil => rfl
  | cons member rest ih =>
      obtain ⟨key, value⟩ := member
      rw [sameMembers, extract, if_pos rfl]
      simp only [Value.equal_self, ih, Bool.and_self]

theorem allEqual_self (vs : List Value) : allEqual vs vs = true := by
  induction vs with
  | nil => rfl
  | cons v vs ih => rw [allEqual, Value.equal_self, ih, Bool.and_self]

theorem Geometry.sameDocument_self (g : Geometry) : g.sameDocument g = true :=
  Value.equal_self _

namespace Filter

theorem allSame_self {fs : List Filter} (h : ∀ f ∈ fs, f.same f = true) :
    allSame fs fs = true := by
  induction fs with
  | nil => rw [allSame]
  | cons f fs ih =>
      rw [allSame, h f (by simp), ih (fun g hg => h g (by simp [hg])), Bool.and_self]

theorem same_self (f : Filter) : f.same f = true := by
  induction f using induction_children with
  | node f ih =>
      cases f with
      | elemMatch key f => simp [same, ih f (by simp [children])]
      | not f => simp [same, ih f (by simp [children])]
      | group c fs => simp [same, allSame_self (show ∀ f ∈ fs, f.same f = true from ih)]
      | _ =>
          simp [same, Value.equal_self, Document.sameMembers_self, allEqual_self,
            Geometry.sameDocument_self]

/-- One place where the conditions differ makes two rows of them different. -/
theorem allSame_map_eq_false {α : Type} (f g : α → Filter) {xs : List α} {x : α} (hx : x ∈ xs)
    (h : (f x).same (g x) = false) : allSame (xs.map f) (xs.map g) = false := by
  induction xs with
  | nil => cases hx
  | cons y ys ih =>
      rw [List.map_cons, List.map_cons, allSame, Bool.and_eq_false_iff]
      rcases List.mem_cons.mp hx with rfl | hx
      · exact .inl h
      · exact .inr (ih hx)

end Filter
end DocFilter

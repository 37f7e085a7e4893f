import DocFilter.Filter.Combine
import DocFilter.Proofs.Equivalence

/-! # Combining equal filters

Joins look at their operands in two ways only: whether one is empty, and which conditions one has if
it is a group of the kind to be built.  Equal filters agree in both (`isNothing_congr`,
`conditionsOf?_congr`), so that combining equal filters gives equal filters, in chains of any length
(`same_equivalence_and_congruence`). -/

namespace DocFilter
namespace Filter

variable {f f' g g' : Filter} {fs gs : List Filter}

theorem isNothing_iff : f.isNothing = true ↔ f.label = .nothing := by
  cases f <;> simp [isNothing, label]

theorem isNothing_congr (h : f.same g = true) : f.isNothing = g.isNothing := by
  rw [Bool.eq_iff_iff, isNothing_iff, isNothing_iff, ((same_iff f g).mp h).1]

theorem same_group_iff (c : Connective) :
    (group c fs).same g = true ↔
      ∃ gs, g = group c gs ∧ List.Forall₂ (fun f g => f.same g = true) fs gs := by
  cases g with
  | group d gs => simp [same, allSame_iff, @eq_comm _ d c]
  | _ => simp [same]

theorem conditionsOf?_eq_some_iff {c : Connective} :
    conditionsOf? c f = some fs ↔ f = group c fs := by
  cases f with
  | group d gs => simp [conditionsOf?]
  | _ => simp [conditionsOf?]

/-- Equal filters are both groups of a kind, with equal conditions, or neither is. -/
theorem conditionsOf?_congr (c : Connective) (h : f.same g = true) :
    Option.Rel (List.Forall₂ fun f g => f.same g = true) (conditionsOf? c f)
      (conditionsOf? c g) := by
  cases hf : conditionsOf? c f with
  | some fs =>
      rw [conditionsOf?_eq_some_iff] at hf
      subst hf
      obtain ⟨gs, rfl, hall⟩ := (same_group_iff c).mp h
      rw [conditionsOf?_eq_some_iff.mpr rfl]
      exact .some hall
  | none =>
      cases hg : conditionsOf? c g with
      | none => exact .none
      | some gs =>
          rw [conditionsOf?_eq_some_iff] at hg
          subst hg
          obtain ⟨fs, rfl, _⟩ := (same_group_iff c).mp (same_symm h)
          rw [conditionsOf?_eq_some_iff.mpr rfl] at hf
          cases hf

theorem join_congr (c : Connective) (hf : f.same f' = true) (hg : g.same g' = true) :
    (join c f g).same (join c f' g') = true := by
  have hsingle : ∀ {a b : Filter}, a.same b = true →
      List.Forall₂ (fun f g => f.same g = true) [a] [b] := fun h => .cons h .nil
  have hgroup : ∀ {as bs : List Filter}, List.Forall₂ (fun f g => f.same g = true) as bs →
      (group c as).same (group c bs) = true := fun h => (same_group_iff c).mpr ⟨_, rfl, h⟩
  have hfc := conditionsOf?_congr c hf
  have hgc := conditionsOf?_congr c hg
  rw [join, join, isNothing_congr hf, isNothing_congr hg]
  generalize conditionsOf? c f = as, conditionsOf? c f' = as' at hfc
  generalize conditionsOf? c g = bs, conditionsOf? c g' = bs' at hgc
  cases hfc with
  | some has =>
      cases hgc with
      | some hbs => exact hgroup (List.rel_append has hbs)
      | none =>
          dsimp only
          split
          · exact hf
          · exact hgroup (List.rel_append has (hsingle hg))
  | none =>
      cases hgc with
      | some hbs =>
          dsimp only
          split
          · exact hg
          · exact hgroup (List.rel_append hbs (hsingle hf))
      | none =>
          dsimp only
          split
          · exact hg
          · split
            · exact hf
            · exact hgroup (.cons hf (hsingle hg))

theorem negate_congr (h : f.same g = true) : f.negate.same g.negate = true := by
  rw [negate, negate, isNothing_congr h]
  split
  · rfl
  · rw [same]
    exact h

theorem elemMatch_congr (key : String) (h : f.same g = true) :
    (elemMatch key f).same (elemMatch key g) = true := by
  rw [same, h, beq_self_eq_true, Bool.and_true]

theorem joinAll_congr (c : Connective) (h : List.Forall₂ (fun f g => f.same g = true) fs gs) :
    (joinAll c fs).same (joinAll c gs) = true := by
  -- What was joined so far is any pair of equal filters.
  have hfold : ∀ {a b : Filter}, a.same b = true →
      (fs.foldl (join c) a).same (gs.foldl (join c) b) = true := by
    induction h with
    | nil => exact fun hab => hab
    | cons hfg _ ih => exact fun hab => ih (join_congr c hab hfg)
  exact hfold (same_self nothing)

/-- Sameness of filters and equality of values are equivalences, and the combinators respect the
former.  For raw documents sameness is found by looking up the keys of one side, as documents that
are built from pairs have each key once. -/
theorem same_equivalence_and_congruence :
    (Equivalence fun f g : Filter => f.same g = true) ∧
    (∀ f f' g g' : Filter, f.same f' = true → g.same g' = true →
      (f.and g).same (f'.and g') = true ∧ (f.or g).same (f'.or g') = true) ∧
    (∀ f f' : Filter, f.same f' = true →
      f.negate.same f'.negate = true ∧ ∀ key, (elemMatch key f).same (elemMatch key f') = true) ∧
    (∀ fs gs : List Filter, List.Forall₂ (fun f g => f.same g = true) fs gs →
      (allOf fs).same (allOf gs) = true ∧ (anyOf fs).same (anyOf gs) = true) ∧
    (Equivalence fun v w : Value => v.equal w = true) ∧
    (∀ d e : Document, d.keys.Nodup → e.keys.Nodup → (raw d).same (raw e) = d.sameLookup e) ∧
    ∀ pairs, (Document.ofPairs pairs).keys.Nodup := by
  refine ⟨same_equivalence, ?_, ?_, ?_, Value.equal_equivalence, ?_, Document.nodup_keys_ofPairs⟩
  · intro f f' g g' hf hg
    exact ⟨join_congr .and hf hg, join_congr .or hf hg⟩
  · intro f f' hf
    exact ⟨negate_congr hf, fun key => elemMatch_congr key hf⟩
  · intro fs gs h
    exact ⟨joinAll_congr .and h, joinAll_congr .or h⟩
  · intro d e hd he
    rw [same, Document.sameMembers_eq_sameLookup hd he]

/-- Filters that are written differently: an option that is implied, options and keys in another
order.  One of the documents is built with a key that is set twice. -/
theorem same_equivalence_and_congruence_reordered :
    let d : Document := [("a", .null), ("b", .regex "p" "xi")]
    let e : Document := [("b", .regex "p" "ix"), ("a", .null)]
    let f := matching .lineStart "a" "p" "xm"
    let f' := matching .lineStart "a" "p" "x"
    let g := raw d
    let g' := raw e
    f.same f' = true ∧ g.same g' = true ∧ (f.and g).same (f'.and g') = true ∧
      (anyOf [nothing, f, g]).same (anyOf [nothing, f', g']) = true ∧
      d.keys.Nodup ∧ e.keys.Nodup ∧ d.sameLookup e = true := by
  intro d e f f' g g'
  have hf : f.same f' = true := by decide
  have hg : g.same g' = true := by decide
  obtain ⟨_, hjoin, _, hfold, _, hlookup, hbuilt⟩ := same_equivalence_and_congruence
  have hall : List.Forall₂ (fun f g => f.same g = true) [nothing, f, g] [nothing, f', g'] :=
    .cons (same_self nothing) (.cons hf (.cons hg .nil))
  have hd : d.keys.Nodup := hbuilt [("a", .bool true), ("b", .regex "p" "xi"), ("a", .null)]
  have he : e.keys.Nodup := hbuilt e
  exact ⟨hf, hg, (hjoin f f' g g' hf hg).1, (hfold _ _ hall).2, hd, he, hlookup d e hd he ▸ hg⟩

end Filter
end DocFilter

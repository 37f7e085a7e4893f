import DocFilter.Proofs.Equality
import DocFilter.Proofs.Lossless

/-! # Reading twice

When is a filter that was read, compiled and read once more the same filter?  `Meets` follows the
reader through a document.  Reading twice gives back the filter exactly when documents with several
members are kept raw, or when the reader meets none of them at the depth limit or below
(`same_reread_iff`).  A document of several members that stands just at the limit is a group of raw
members at the first reading; the second one does not look into the list it was compiled to
(`not_forall_same_reread`).

The document is another matter: what was restated once is in the spelling of the compiler
(`kept_restated`), and stays as it is however often it is restated again (`restated_restated`). -/

namespace DocFilter
namespace Filter

/-- The documents that the reader comes to, with their depths, when it is at a document of a given
depth.  The members of a conjunction count as documents of their own, one level below. -/
inductive Meets (config : ParseConfig) : Nat → Document → Nat → Document → Prop
  | here (i : Nat) (d : Document) : Meets config i d i d
  | inside {i j : Nat} {key : String} {value : Value} {d e : Document} :
      i < config.maxDepth → d ∈ (Shape.of key value).documents → Meets config (i + 1) d j e →
      Meets config i [(key, value)] j e
  | member {i j : Nat} {m : String × Value} {d e : Document} :
      config.multiKey = .conjunction → 1 < d.length → m ∈ d → Meets config (i + 1) [m] j e →
      Meets config i d j e

section
variable {config : ParseConfig}

/-- The induction is on the levels that are left; a document of several members spends one of them,
and so needs one. -/
theorem reread_eq (levels : Nat) : ∀ (i : Nat) (d : Document), config.maxDepth - i = levels →
    (config.multiKey = .conjunction →
      ∀ j e, Meets config i d j e → 1 < e.length → j < config.maxDepth) →
    readDocument config.multiKey levels (restated config.multiKey levels d) =
      readDocument config.multiKey levels d := by
  induction levels with
  | zero =>
      intro i d hi h
      cases d using Document.cases_members with
      | empty => rw [reread_nil, readDocument_nil]
      | single key value => rw [reread_one_zero, readDocument_one_zero]
      | several d hlen =>
          cases hm : config.multiKey with
          | passthrough => rw [reread_passthrough 0 hlen, readDocument_passthrough 0 hlen]
          | conjunction =>
              have := h hm i d (.here i d) hlen
              omega
  | succ n ih =>
      intro i d hi h
      cases d using Document.cases_members with
      | empty => rw [reread_nil, readDocument_nil]
      | single key value =>
          rw [reread_one_succ, readDocument_one_succ]
          refine ofShape_congr _ _ fun d hd => ih (i + 1) d (by omega) ?_
          intro hm j e he
          exact h hm j e (.inside (by omega) hd he)
      | several d hlen =>
          cases hm : config.multiKey with
          | passthrough => rw [reread_passthrough _ hlen, readDocument_passthrough _ hlen]
          | conjunction =>
              rw [reread_conjunction_succ n hlen, readDocument_conjunction (n + 1) hlen]
              congr 1
              refine List.map_congr_left fun m hmem => ?_
              rw [hm] at ih
              refine ih (i + 1) [m] (by omega) ?_
              intro _ j e he
              exact h hm j e (.member hm hlen hmem he)

/-- A difference inside a shape is one of the filters. -/
theorem same_ofShape_eq_false (read read' : Document → Filter) (member : String × Value)
    {s : Shape} {d : Document} (hd : d ∈ s.documents) (h : (read d).same (read' d) = false) :
    (ofShape read member s).same (ofShape read' member s) = false := by
  cases s with
  | logical c ds =>
      have hmem : d ∈ ds := hd
      rw [ofShape, ofShape, same, allSame_map_eq_false read read' hmem h, Bool.and_false]
  | elemMatch e =>
      simp only [Shape.documents, List.mem_singleton] at hd
      subst hd
      rw [ofShape, ofShape, same, h, Bool.and_false]
  | _ => simp [Shape.documents] at hd

/-- A document of several members at the limit makes a difference there, and what the reader passed
on its way carries the difference up to the root. -/
theorem same_reread_eq_false {i j : Nat} {d e : Document} (h : Meets config i d j e)
    (he : 1 < e.length) (hj : config.maxDepth ≤ j) :
    (readDocument .conjunction (config.maxDepth - i)
        (restated .conjunction (config.maxDepth - i) d)).same
      (readDocument .conjunction (config.maxDepth - i) d) = false := by
  have limit : ∀ {i : Nat} {d : Document}, 1 < d.length → config.maxDepth - i = 0 →
      (readDocument .conjunction (config.maxDepth - i)
          (restated .conjunction (config.maxDepth - i) d)).same
        (readDocument .conjunction (config.maxDepth - i) d) = false := by
    intro i d hd h0
    rw [h0, reread_conjunction_zero hd, readDocument_conjunction 0 hd, rawMember]
    simp [same]
  induction h with
  | here i d => exact limit he (by omega)
  | @inside i j key value d e hi hd _ ih =>
      obtain ⟨n, hn⟩ : ∃ n, config.maxDepth - i = n + 1 := ⟨config.maxDepth - i - 1, by omega⟩
      have hn' : config.maxDepth - (i + 1) = n := by omega
      rw [hn, reread_one_succ, readDocument_one_succ]
      rw [hn'] at ih
      exact same_ofShape_eq_false _ _ _ hd (ih he hj)
  | @member i j m d e _ hd hmem _ ih =>
      rcases Nat.eq_zero_or_pos (config.maxDepth - i) with h0 | hpos
      · exact limit hd h0
      · obtain ⟨n, hn⟩ : ∃ n, config.maxDepth - i = n + 1 := ⟨config.maxDepth - i - 1, by omega⟩
        have hn' : config.maxDepth - (i + 1) = n := by omega
        rw [hn, reread_conjunction_succ n hd, readDocument_conjunction (n + 1) hd,
          Nat.add_sub_cancel, same]
        rw [hn'] at ih
        rw [allSame_map_eq_false _ _ hmem (ih he hj), Bool.and_false]

end

/-- A filter is the same after it was compiled and read again exactly when no document that was
broken up into its members stood at the depth limit or below. -/
theorem same_reread_iff (config : ParseConfig) (d : Document) :
    (ofDocument config (ofDocument config d).toDocument).same (ofDocument config d) = true ↔
      config.multiKey = .passthrough ∨
        ∀ j e, Meets config 0 d j e → 1 < e.length → j < config.maxDepth := by
  have hread : ofDocument config d = readDocument config.multiKey config.maxDepth d := rfl
  have hreread : ofDocument config (ofDocument config d).toDocument =
      readDocument config.multiKey config.maxDepth
        (restated config.multiKey config.maxDepth d) := rfl
  rw [hreread, hread]
  constructor
  · intro hsame
    cases hm : config.multiKey with
    | passthrough => exact .inl rfl
    | conjunction =>
        refine .inr fun j e he hlen => ?_
        rcases Nat.lt_or_ge j config.maxDepth with hj | hj
        · exact hj
        · have hdiff := same_reread_eq_false he hlen hj
          rw [hm] at hsame
          rw [Nat.sub_zero, hsame] at hdiff
          cases hdiff
  · intro h
    rw [reread_eq config.maxDepth 0 d (Nat.sub_zero _), same_self]
    intro hm
    rcases h with h | h
    · rw [hm] at h
      cases h
    · exact h

/-- A document of two members that stands at depth 1, where the limit is. -/
theorem not_forall_same_reread : ¬ ∀ (config : ParseConfig) (d : Document), 1 ≤ config.maxDepth →
    (ofDocument config (ofDocument config d).toDocument).same (ofDocument config d) = true := by
  intro h
  have := h ⟨.conjunction, 1⟩
    [("$or", .array [.document [("x", .document [("$eq", .int32 1)]),
      ("y", .document [("$eq", .int32 2)])]])] (by decide)
  revert this
  decide +kernel

/-! ### Restating twice -/

/-- What was restated is in the spelling of the compiler as far as the reader looks.  The induction
is on the levels that are left. -/
theorem kept_restated (multiKey : MultiKey) (levels : Nat) : ∀ d : Document,
    Kept multiKey levels (restated multiKey levels d) := by
  induction levels with
  | zero =>
      intro d
      cases d using Document.cases_members with
      | empty =>
          rw [restated_nil]
          exact .empty 0
      | single key value =>
          rw [restated_one_zero]
          exact .cut (key, value)
      | several d hd =>
          cases multiKey with
          | passthrough =>
              rw [restated_passthrough 0 hd]
              exact .whole rfl hd
          | conjunction =>
              rw [restated_conjunction 0 hd]
              exact .cut _
  | succ n ih =>
      intro d
      cases d using Document.cases_members with
      | empty =>
          rw [restated_nil]
          exact .empty (n + 1)
      | single key value =>
          have hs := (Shape.recognised key value).of_written (restated multiKey n)
          rw [restated_one_succ]
          refine .member ?_ fun e he => ?_
          · rw [hs, Shape.written_written]
          · rw [hs, Shape.documents_mapDocuments] at he
            obtain ⟨d, _, rfl⟩ := List.mem_map.mp he
            exact ih d
      | several d hd =>
          cases multiKey with
          | passthrough =>
              rw [restated_passthrough (n + 1) hd]
              exact .whole rfl hd
          | conjunction =>
              have hs := Shape.of_group .and (d.map fun m => restated .conjunction n [m])
              rw [Connective.keyword] at hs
              rw [restated_conjunction (n + 1) hd, Nat.add_sub_cancel]
              refine .member ?_ fun e he => ?_
              · rw [hs, Shape.written]
              · rw [hs] at he
                obtain ⟨m, _, rfl⟩ := List.mem_map.mp he
                exact ih [m]

theorem restated_restated (multiKey : MultiKey) (levels : Nat) (d : Document) :
    restated multiKey levels (restated multiKey levels d) = restated multiKey levels d :=
  (kept_restated multiKey levels d).restated_eq

/-- Reading again never changes the document.  It changes the filter exactly when a document of
several members was broken up at the depth limit or below. -/
theorem toDocument_reread_and_reread_eq_iff (config : ParseConfig) (d : Document) :
    (ofDocument config (ofDocument config d).toDocument).toDocument =
        (ofDocument config d).toDocument ∧
      (ofDocument config (ofDocument config d).toDocument = ofDocument config d ↔
        config.multiKey = .passthrough ∨
          ∀ j e, Meets config 0 d j e → 1 < e.length → j < config.maxDepth) := by
  have reread : ofDocument config (ofDocument config d).toDocument =
      readDocument config.multiKey config.maxDepth
        (restated config.multiKey config.maxDepth d) := rfl
  refine ⟨restated_restated config.multiKey config.maxDepth d, ?_⟩
  rw [reread, ofDocument_eq]
  constructor
  · intro heq
    cases hm : config.multiKey with
    | passthrough => exact .inl rfl
    | conjunction =>
        refine .inr fun j e he hlen => Nat.lt_of_not_le fun hj => ?_
        have hdiff := same_reread_eq_false he hlen hj
        rw [hm] at heq
        rw [Nat.sub_zero, heq, same_self] at hdiff
        cases hdiff
  · intro h
    refine reread_eq config.maxDepth 0 d (Nat.sub_zero _) fun hm j e he hlen => ?_
    rcases h with h | h
    · rw [hm] at h
      cases h
    · exact h j e he hlen

end Filter
end DocFilter

import DocFilter.Proofs.Congruence

/-! # The operands of joins

For joins of one kind a filter is a row of operands (`operands`): none if it is empty, its
conditions if it is a group of that kind, and itself otherwise.  A join puts two rows together.
Which of them comes first is decided by the operands' own form: a group takes in whatever it is
joined with at its end, so that a single filter joined with a group that follows it comes behind
that group (`PutsBehind`).  All other joins keep the order.

In a chain of joins this can happen at the first one only, because what is joined so far is a group
from the second operand on (`foldl_join_group`).  Hence the exact order of every chain, and that no
operand is lost or doubled (`joinsOperands`). -/

namespace DocFilter
namespace Filter

/-- Whether a filter is a group of the given kind. -/
def isGroup (c : Connective) : Filter → Bool
  | group d _ => d == c
  | _ => false

/-- What a filter is to joins of the given kind. -/
def operands (c : Connective) : Filter → List Filter
  | nothing => []
  | group d fs => if d = c then fs else [group d fs]
  | f => [f]

/-- Whether a filter is one operand: it is neither empty nor a group of the kind. -/
def IsSingle (c : Connective) (f : Filter) : Prop := f.isNothing = false ∧ f.isGroup c = false

instance (c : Connective) (f : Filter) : Decidable (f.IsSingle c) :=
  inferInstanceAs (Decidable (_ ∧ _))

/-- Whether joining turns two filters round: a group comes before a single filter. -/
def PutsBehind (c : Connective) (f g : Filter) : Prop := f.IsSingle c ∧ g.isGroup c = true

instance (c : Connective) (f g : Filter) : Decidable (PutsBehind c f g) :=
  inferInstanceAs (Decidable (_ ∧ _))

/-- Whether the joins of two and of many filters keep all operands, each once, and in which order
they put them. -/
structure JoinsOperands (c : Connective) (two : Filter → Filter → Filter)
    (many : List Filter → Filter) : Prop where
  turned : ∀ f g, PutsBehind c f g → operands c (two f g) = operands c g ++ operands c f
  inOrder : ∀ f g, ¬ PutsBehind c f g → operands c (two f g) = operands c f ++ operands c g
  comm : ∀ f g, (operands c (two f g)).Perm (operands c (two g f))
  assoc : ∀ f g h, (operands c (two (two f g) h)).Perm (operands c (two f (two g h)))
  perm : ∀ fs, (operands c (many fs)).Perm (fs.flatMap (operands c))
  allInOrder : ∀ fs, (∀ f g rest, fs.filter (! ·.isNothing) = f :: g :: rest → ¬ PutsBehind c f g) →
    operands c (many fs) = fs.flatMap (operands c)
  firstTurned : ∀ fs f g rest, fs.filter (! ·.isNothing) = f :: g :: rest → PutsBehind c f g →
    operands c (many fs) = operands c g ++ operands c f ++ rest.flatMap (operands c)

section
variable (c : Connective)

/-! ### The three forms of an operand -/

theorem isGroup_group (fs : List Filter) : (group c fs).isGroup c = true := by
  simp [isGroup]

theorem operands_group (fs : List Filter) : operands c (group c fs) = fs := by
  simp [operands]

theorem operands_nothing : operands c nothing = [] := rfl

variable {c} {f g : Filter}

theorem isGroup_iff : f.isGroup c = true ↔ ∃ fs, f = group c fs := by
  cases f with
  | group d fs => simp [isGroup]
  | _ => simp [isGroup]

theorem isNothing_eq_true_iff : f.isNothing = true ↔ f = nothing := by
  cases f <;> simp [isNothing]

theorem IsSingle.conditionsOf?_eq_none (h : f.IsSingle c) : conditionsOf? c f = none := by
  cases hf : conditionsOf? c f with
  | none => rfl
  | some fs =>
      rw [conditionsOf?_eq_some_iff] at hf
      have := h.2
      rw [hf, isGroup_group] at this
      cases this

theorem IsSingle.operands_eq (h : f.IsSingle c) : operands c f = [f] := by
  obtain ⟨hne, hgroup⟩ := h
  cases f with
  | nothing => cases hne
  | group d fs =>
      have hd : d ≠ c := by simpa [isGroup] using hgroup
      rw [operands, if_neg hd]
  | _ => rfl

/-- A filter is empty, a group of the kind, or a single operand. -/
@[elab_as_elim]
theorem cases_operand (c : Connective) {P : Filter → Prop} (empty : P nothing)
    (group : ∀ fs, P (group c fs)) (single : ∀ f, f.IsSingle c → P f) (f : Filter) : P f := by
  cases hne : f.isNothing with
  | true =>
      rw [isNothing_eq_true_iff] at hne
      rw [hne]
      exact empty
  | false =>
      cases hgroup : f.isGroup c with
      | true =>
          obtain ⟨fs, rfl⟩ := isGroup_iff.mp hgroup
          exact group fs
      | false => exact single f ⟨hne, hgroup⟩

/-! ### Joins of two -/

/-- A group takes in all operands of what follows it. -/
theorem join_group (fs : List Filter) (f : Filter) :
    join c (group c fs) f = group c (fs ++ operands c f) := by
  cases f using cases_operand c with
  | empty => rw [join_nothing, operands_nothing, List.append_nil]
  | group gs => rw [join_group_group, operands_group]
  | single f hf =>
      rw [hf.operands_eq, join, conditionsOf?_eq_some_iff.mpr rfl, hf.conditionsOf?_eq_none]
      simp only [hf.1, Bool.false_eq_true, if_false]

theorem join_single_group (hf : f.IsSingle c) (gs : List Filter) :
    join c f (group c gs) = group c (gs ++ [f]) := by
  rw [join, hf.conditionsOf?_eq_none, conditionsOf?_eq_some_iff.mpr rfl]
  simp only [hf.1, Bool.false_eq_true, if_false]

theorem join_single_single (hf : f.IsSingle c) (hg : g.IsSingle c) :
    join c f g = group c [f, g] := by
  rw [join, hf.conditionsOf?_eq_none, hg.conditionsOf?_eq_none]
  simp only [hf.1, hg.1, Bool.false_eq_true, if_false]

/-- Two filters that are not empty make a group. -/
theorem join_eq_group (hf : f.isNothing = false) (hg : g.isNothing = false) :
    join c f g = group c (operands c (join c f g)) := by
  cases f using cases_operand c with
  | empty => cases hf
  | group fs => rw [join_group, operands_group]
  | single f hfc =>
      cases g using cases_operand c with
      | empty => cases hg
      | group gs => rw [join_single_group hfc, operands_group]
      | single g hgc => rw [join_single_single hfc hgc, operands_group]

theorem operands_join_of_putsBehind (h : PutsBehind c f g) :
    operands c (join c f g) = operands c g ++ operands c f := by
  obtain ⟨hf, hg⟩ := h
  obtain ⟨gs, rfl⟩ := isGroup_iff.mp hg
  rw [join_single_group hf, operands_group, operands_group, hf.operands_eq]

theorem operands_join_of_not_putsBehind (h : ¬ PutsBehind c f g) :
    operands c (join c f g) = operands c f ++ operands c g := by
  cases f using cases_operand c with
  | empty => rw [nothing_join, operands_nothing, List.nil_append]
  | group fs => rw [join_group, operands_group, operands_group]
  | single f hf =>
      cases g using cases_operand c with
      | empty => rw [join_nothing, operands_nothing, List.append_nil]
      | group gs => exact absurd ⟨hf, isGroup_group c gs⟩ h
      | single g hg =>
          rw [join_single_single hf hg, operands_group, hf.operands_eq, hg.operands_eq]
          rfl

end

section
variable (c : Connective)

theorem operands_join_perm (f g : Filter) :
    (operands c (join c f g)).Perm (operands c f ++ operands c g) := by
  by_cases h : PutsBehind c f g
  · rw [operands_join_of_putsBehind h]
    exact List.perm_append_comm
  · rw [operands_join_of_not_putsBehind h]

theorem operands_join_comm (f g : Filter) :
    (operands c (join c f g)).Perm (operands c (join c g f)) :=
  ((operands_join_perm c f g).trans List.perm_append_comm).trans (operands_join_perm c g f).symm

theorem operands_join_assoc (f g h : Filter) :
    (operands c (join c (join c f g) h)).Perm (operands c (join c f (join c g h))) := by
  have hleft : (operands c (join c (join c f g) h)).Perm
      (operands c f ++ operands c g ++ operands c h) :=
    (operands_join_perm c _ h).trans ((operands_join_perm c f g).append_right _)
  have hright : (operands c (join c f (join c g h))).Perm
      (operands c f ++ (operands c g ++ operands c h)) :=
    (operands_join_perm c f _).trans ((operands_join_perm c g h).append_left _)
  rw [List.append_assoc] at hleft
  exact hleft.trans hright.symm

/-! ### Chains of joins -/

/-- From a group on, a chain only adds operands at the end. -/
theorem foldl_join_group (as fs : List Filter) :
    fs.foldl (join c) (group c as) = group c (as ++ fs.flatMap (operands c)) := by
  induction fs generalizing as with
  | nil => rw [List.foldl_nil, List.flatMap_nil, List.append_nil]
  | cons f fs ih =>
      rw [List.foldl_cons, join_group, ih, List.flatMap_cons, List.append_assoc]

theorem foldl_join_filter (f : Filter) (fs : List Filter) :
    (fs.filter (! ·.isNothing)).foldl (join c) f = fs.foldl (join c) f := by
  induction fs generalizing f with
  | nil => rfl
  | cons g fs ih =>
      cases hg : g.isNothing with
      | true =>
          rw [isNothing_eq_true_iff] at hg
          rw [List.filter_cons_of_neg (by simp [hg, isNothing]), ih, List.foldl_cons, hg,
            join_nothing]
      | false => rw [List.filter_cons_of_pos (by simp [hg]), List.foldl_cons, List.foldl_cons, ih]

theorem flatMap_operands_filter (fs : List Filter) :
    (fs.filter (! ·.isNothing)).flatMap (operands c) = fs.flatMap (operands c) := by
  induction fs with
  | nil => rfl
  | cons g fs ih =>
      cases hg : g.isNothing with
      | true =>
          rw [isNothing_eq_true_iff] at hg
          rw [List.filter_cons_of_neg (by simp [hg, isNothing]), ih, List.flatMap_cons, hg,
            operands_nothing, List.nil_append]
      | false => rw [List.filter_cons_of_pos (by simp [hg]), List.flatMap_cons, List.flatMap_cons, ih]

/-- Of the filters in a chain that are not empty, the first two make a group to whose end the others
are added. -/
theorem operands_joinAll_of_filter {fs rest : List Filter} {f g : Filter}
    (h : fs.filter (! ·.isNothing) = f :: g :: rest) :
    operands c (joinAll c fs) = operands c (join c f g) ++ rest.flatMap (operands c) := by
  have hmem : ∀ x ∈ f :: g :: rest, x.isNothing = false := by
    intro x hx
    rw [← h, List.mem_filter] at hx
    simpa using hx.2
  have hgroup := join_eq_group (c := c) (hmem f (by simp)) (hmem g (by simp))
  rw [joinAll, ← foldl_join_filter, h, List.foldl_cons, List.foldl_cons, nothing_join, hgroup,
    foldl_join_group, operands_group, operands_group]

theorem operands_joinAll_of_length_le {fs : List Filter}
    (h : (fs.filter (! ·.isNothing)).length ≤ 1) :
    operands c (joinAll c fs) = fs.flatMap (operands c) := by
  rw [joinAll, ← foldl_join_filter, ← flatMap_operands_filter]
  generalize fs.filter (! ·.isNothing) = gs at h
  obtain _ | ⟨f, _ | ⟨g, rest⟩⟩ := gs
  · rfl
  · rw [List.foldl_cons, List.foldl_nil, nothing_join, List.flatMap_singleton]
  · simp at h

/-- A chain of joins is decided by the first two filters in it that are not empty, if there are
two. -/
theorem cases_chain {P : List Filter → Prop}
    (short : ∀ fs, (fs.filter (! ·.isNothing)).length ≤ 1 → P fs)
    (long : ∀ fs f g rest, fs.filter (! ·.isNothing) = f :: g :: rest → P fs)
    (fs : List Filter) : P fs := by
  cases h : fs.filter (! ·.isNothing) with
  | nil => exact short fs (by simp [h])
  | cons f rest =>
      cases rest with
      | nil => exact short fs (by simp [h])
      | cons g rest => exact long fs f g rest h

theorem operands_joinAll_perm (fs : List Filter) :
    (operands c (joinAll c fs)).Perm (fs.flatMap (operands c)) := by
  cases fs using cases_chain with
  | short fs h => rw [operands_joinAll_of_length_le c h]
  | long fs f g rest h =>
      rw [operands_joinAll_of_filter c h, ← flatMap_operands_filter c fs, h, List.flatMap_cons,
        List.flatMap_cons, ← List.append_assoc]
      exact (operands_join_perm c f g).append_right _

theorem operands_joinAll_inOrder (fs : List Filter)
    (hfirst : ∀ f g rest, fs.filter (! ·.isNothing) = f :: g :: rest → ¬ PutsBehind c f g) :
    operands c (joinAll c fs) = fs.flatMap (operands c) := by
  cases fs using cases_chain with
  | short fs h => exact operands_joinAll_of_length_le c h
  | long fs f g rest h =>
      rw [operands_joinAll_of_filter c h, operands_join_of_not_putsBehind (hfirst f g rest h),
        ← flatMap_operands_filter c fs, h, List.flatMap_cons, List.flatMap_cons, List.append_assoc]

theorem joinsOperands_join : JoinsOperands c (join c) (joinAll c) where
  turned _ _ := operands_join_of_putsBehind
  inOrder _ _ := operands_join_of_not_putsBehind
  comm := operands_join_comm c
  assoc := operands_join_assoc c
  perm := operands_joinAll_perm c
  allInOrder := operands_joinAll_inOrder c
  firstTurned _ _ _ _ h hturned := by
    rw [operands_joinAll_of_filter c h, operands_join_of_putsBehind hturned]

end

/-- Conjunctions and disjunctions, of two filters and of rows of them, keep all operands in a known
order. -/
theorem joinsOperands : JoinsOperands .and and allOf ∧ JoinsOperands .or or anyOf :=
  ⟨joinsOperands_join .and, joinsOperands_join .or⟩

/-- An empty condition in front, then a single filter and groups of both kinds: the conjunction puts
the filter behind the group next to it, the disjunction comes to its group too late for that. -/
theorem joinsOperands_turned :
    let f (key : String) : Filter := present key true
    let fs := [nothing, f "a", group .and [f "b", f "c"], group .or [f "d"], nothing, group .and []]
    PutsBehind .and (f "a") (group .and [f "b", f "c"]) ∧
      operands .and (allOf fs) = [f "b", f "c", f "a", group .or [f "d"]] ∧
      operands .or (anyOf fs) = [f "a", group .and [f "b", f "c"], f "d", group .and []] := by
  intro f fs
  have hturned : PutsBehind .and (f "a") (group .and [f "b", f "c"]) := by decide
  obtain ⟨hand, hor⟩ := joinsOperands
  refine ⟨hturned, hand.firstTurned fs _ _ _ rfl hturned, hor.allInOrder fs ?_⟩
  intro g h rest hfs
  obtain ⟨rfl, rfl, _⟩ : f "a" = g ∧ group .and [f "b", f "c"] = h ∧ _ = rest := by
    simpa [fs, f, isNothing] using hfs
  decide

end Filter
end DocFilter

import DocFilter.Proofs.Lossless

/-! # Operators on array elements

A condition on array elements can be an operator expression, such as
`{"$elemMatch": {"$gte": 80, "$lt": 85}}`, in place of a filter document.  The reader makes no
difference: it takes the operators for keys.  So it breaks an expression of several operators up
when it reads several members as a conjunction (`not_operatorFormsKept`), and it looks for filters
in the operand of a single one.

`toDocument_operator_form_iff` says which expressions come back as they are.  What can change under
a key that is no connective is only an operand in another spelling than the compiler's, at this
place or in the operand of an inner `$elemMatch` (`restated_one_iff`). -/

namespace DocFilter
namespace Filter

/-- One operator of an expression: a comparison with any operand, or membership in an array. -/
inductive IsOperator : String × Value → Prop
  | comparison (op : Comparison) (operand : Value) : IsOperator (op.keyword, operand)
  | membership (values : List Value) : IsOperator ("$in", .array values)

theorem IsOperator.ofKeyword?_eq_none {m : String × Value} (h : IsOperator m) :
    Connective.ofKeyword? m.1 = none := by
  cases h with
  | comparison op operand => cases op <;> rfl
  | membership values => rfl

/-- Whether a value under a key that is no connective is in the spelling of the compiler as far as
the reader looks, with this many levels left for the documents inside. -/
def OperandKept (multiKey : MultiKey) (levels : Nat) (v : Value) : Prop :=
  ∀ name operand, v = .document [(name, operand)] →
    name ≠ "$neq" ∧ (name = "$in" → operand.isListDocument = false) ∧
      ∀ d, name = "$elemMatch" → operand = .document d →
        (ofDocument ⟨multiKey, levels⟩ d).toDocument = d

section
variable {multiKey : MultiKey} {levels : Nat}

/-- For an operator the value is given, and only its name and its operand count. -/
theorem operandKept_operator_iff {name : String} {operand : Value} :
    OperandKept multiKey levels (.document [(name, operand)]) ↔
      name ≠ "$neq" ∧ (name = "$in" → operand.isListDocument = false) ∧
        ∀ d, name = "$elemMatch" → operand = .document d →
          restated multiKey levels d = d := by
  constructor
  · intro h
    exact h name operand rfl
  · rintro h name' operand' hv
    cases hv
    exact h

/-- Only one spelling of a comparison is not its keyword. -/
theorem keyword_eq_iff {name : String} {op : Comparison}
    (h : Comparison.ofKeyword? name = some op) : op.keyword = name ↔ name ≠ "$neq" := by
  constructor
  · rintro hop rfl
    revert hop
    cases op <;> decide
  · intro hne
    exact (keyword_of_comparison hne h).symm

theorem eq_array_iff {v : Value} {items : List Value} (h : v.listItems? = some items) :
    .array items = v ↔ v.isListDocument = false := by
  rcases Shape.eq_array_or_isListShaped h with rfl | ⟨d, rfl, hd⟩
  · simp [Value.isListDocument]
  · simp [Value.isListDocument, hd]

theorem isListDocument_eq_false_of_unknown {list : Value}
    (h : Shape.ofOperator "$in" list = .unknown) : list.isListDocument = false := by
  have hin : Shape.ofOperator "$in" list =
      (list.listItems?.map Shape.membership).getD .unknown := rfl
  cases list with
  | document d =>
      rw [hin, Value.listItems?, Document.asList?] at h
      split at h
      · cases h
      · next hd => exact Bool.not_eq_true _ ▸ hd
  | _ => rfl

/-- Under a key that is no connective, a member comes back exactly when its operand is kept. -/
theorem restated_one_iff {key : String} (hkey : Connective.ofKeyword? key = none) (v : Value) :
    restated multiKey (levels + 1) [(key, v)] = [(key, v)] ↔ OperandKept multiKey levels v := by
  have hwritten : restated multiKey (levels + 1) [(key, v)] = [(key, v)] ↔
      ((Shape.of key v).mapDocuments (restated multiKey levels)).written v = v := by
    rw [restated_one_succ]
    simp
  rw [hwritten]
  have hr := Shape.recognised key v
  generalize hs : Shape.of key v = s at hr ⊢
  cases hr with
  | logical hitems =>
      rw [Shape.ofKeyword?_keyword] at hkey
      cases hkey
  | @comparison _ name op operand hname =>
      have hin : name ≠ "$in" := Shape.ofKeyword?_ne hname rfl
      have helem : name ≠ "$elemMatch" := Shape.ofKeyword?_ne hname rfl
      have hop := keyword_eq_iff hname
      rw [operandKept_operator_iff]
      simp [Shape.mapDocuments, Shape.written, hin, helem, hop]
  | membership hlist =>
      have heq := eq_array_iff hlist
      rw [operandKept_operator_iff]
      simp [Shape.mapDocuments, Shape.written, heq]
  | elemMatch =>
      rw [operandKept_operator_iff]
      simp [Shape.mapDocuments, Shape.written]
  | unknown _ =>
      -- A member of no known shape is written as it is, and an operand in another spelling would
      -- have given it a known one.
      refine iff_of_true rfl ?_
      rintro name operand rfl
      refine ⟨?_, ?_, ?_⟩
      · rintro rfl
        rw [Shape.of_operator (by decide)] at hs
        cases hs
      · rintro rfl
        rw [Shape.of_operator (by decide)] at hs
        exact isListDocument_eq_false_of_unknown hs
      · rintro d rfl rfl
        rw [Shape.of_elemMatch] at hs
        cases hs

/-- A condition on array elements comes back exactly when what is inside it does. -/
theorem restated_elemMatch_iff (key : String) (e : Document) :
    restated multiKey (levels + 1) (clause key "$elemMatch" (.document e)) =
        clause key "$elemMatch" (.document e) ↔
      restated multiKey levels e = e := by
  rw [clause, restated_one_succ, Shape.of_elemMatch]
  simp [Shape.mapDocuments, Shape.written]

/-- Several members come back exactly when they are not broken up. -/
theorem restated_several_iff {e : Document} (h : 1 < e.length) :
    restated multiKey levels e = e ↔ multiKey = .passthrough := by
  cases multiKey with
  | passthrough => exact iff_of_true (restated_passthrough levels h) rfl
  | conjunction =>
      refine iff_of_false (fun heq => ?_) nofun
      have hlength := congrArg List.length heq
      rw [restated_conjunction levels h, List.length_singleton] at hlength
      omega

end

/-- An operator expression on array elements comes back exactly when it has several operators that
are kept together, or a single one that is not looked into or whose operand is kept. -/
theorem toDocument_operator_form_iff (config : ParseConfig) (key : String) {e : Document}
    (hne : e ≠ []) (hops : ∀ m ∈ e, IsOperator m) (hdepth : 1 ≤ config.maxDepth) :
    (ofDocument config (clause key "$elemMatch" (.document e))).toDocument =
        clause key "$elemMatch" (.document e) ↔
      (1 < e.length ∧ config.multiKey = .passthrough) ∨
        ∃ op operand, e = [(op, operand)] ∧
          (config.maxDepth = 1 ∨ OperandKept config.multiKey (config.maxDepth - 2) operand) := by
  obtain ⟨n, hn⟩ : ∃ n, config.maxDepth = n + 1 := ⟨config.maxDepth - 1, by omega⟩
  have hinside : (ofDocument config (clause key "$elemMatch" (.document e))).toDocument =
      clause key "$elemMatch" (.document e) ↔ restated config.multiKey n e = e := by
    rw [ofDocument_eq, toDocument_eq, hn]
    exact restated_elemMatch_iff key e
  rw [hinside]
  cases e using Document.cases_members with
  | empty => exact absurd rfl hne
  | several e he =>
      rw [restated_several_iff he]
      constructor
      · intro hm
        exact .inl ⟨he, hm⟩
      · rintro (⟨_, hm⟩ | ⟨op, operand, rfl, _⟩)
        · exact hm
        · exact absurd he (by simp)
  | single op operand =>
      have hop : Connective.ofKeyword? op = none :=
        (hops (op, operand) (List.mem_singleton_self _)).ofKeyword?_eq_none
      have hone : restated config.multiKey n [(op, operand)] = [(op, operand)] ↔
          config.maxDepth = 1 ∨ OperandKept config.multiKey (config.maxDepth - 2) operand := by
        cases n with
        | zero => exact iff_of_true (restated_one_zero _ _) (.inl hn)
        | succ levels =>
            have hlevels : config.maxDepth - 2 = levels := by omega
            have hne1 : config.maxDepth ≠ 1 := by omega
            rw [restated_one_iff hop, hlevels, or_iff_right hne1]
      rw [hone]
      constructor
      · intro h
        exact .inr ⟨op, operand, rfl, h⟩
      · rintro (⟨he, _⟩ | ⟨_, _, heq, h⟩)
        · exact absurd he (by simp)
        · cases heq
          exact h

/-- An operator whose operand is a condition on array elements in the spelling of the compiler. -/
theorem toDocument_operator_form_inner :
    let config : ParseConfig := ⟨.conjunction, 100⟩
    let e : Document := [("$ne", .document [("$elemMatch", .document [("$in", .array [.null])])])]
    e ≠ [] ∧ (∀ m ∈ e, IsOperator m) ∧ 1 ≤ config.maxDepth ∧
      (ofDocument config (clause "results" "$elemMatch" (.document e))).toDocument =
        clause "results" "$elemMatch" (.document e) := by
  intro config e
  have hne : e ≠ [] := by decide
  have hops : ∀ m ∈ e, IsOperator m := List.forall_mem_singleton.mpr (.comparison .ne _)
  have hkept : OperandKept .conjunction 98
      (.document [("$elemMatch", .document [("$in", .array [.null])])]) := by
    rw [operandKept_operator_iff]
    refine ⟨by decide, by decide, fun d _ hd => ?_⟩
    cases hd
    decide
  have hdepth : 1 ≤ config.maxDepth := by decide
  refine ⟨hne, hops, hdepth, ?_⟩
  exact (toDocument_operator_form_iff config "results" hne hops hdepth).mpr
    (.inr ⟨"$ne", _, rfl, .inr hkept⟩)

/-- All operator expressions on array elements come back, at any limit. -/
def OperatorFormsKept (multiKey : MultiKey) : Prop :=
  ∀ (maxDepth : Nat) (key : String) (e : Document),
    e ≠ [] → (∀ m ∈ e, IsOperator m) → 1 ≤ maxDepth →
    (ofDocument ⟨multiKey, maxDepth⟩ (clause key "$elemMatch" (.document e))).toDocument =
      clause key "$elemMatch" (.document e)

/-- Two operators are broken up as a conjunction, and the older spelling of inequality that an
operator is compared with does not come back either way. -/
theorem not_operatorFormsKept :
    ¬ OperatorFormsKept .conjunction ∧ ¬ OperatorFormsKept .passthrough := by
  constructor
  · intro h
    have hops : ∀ m ∈ [("$gte", Value.int32 80), ("$lt", Value.int32 85)], IsOperator m :=
      List.forall_mem_cons.mpr
        ⟨.comparison .gte _, List.forall_mem_singleton.mpr (.comparison .lt _)⟩
    have := h 100 "results" _ (by decide) hops (by decide)
    revert this
    decide
  · intro h
    have hops : ∀ m ∈ [("$eq", Value.document [("$neq", .int32 1)])], IsOperator m :=
      List.forall_mem_singleton.mpr (.comparison .eq _)
    have := h 100 "results" _ (by decide) hops (by decide)
    revert this
    decide

end Filter
end DocFilter

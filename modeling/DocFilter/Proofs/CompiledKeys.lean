import DocFilter.Proofs.Compiled
import Mathlib.Logic.Function.Iterate

/-! # Keys of compiled documents

At which keys the document of a filter asks for something.  Negations leave the keys as they are
and wrap what is asked of each (`compile_iterate_not`), so that the keys are those of the filter
below all negations: none for the empty condition (`compile_eq_nil_iff`), the field for a filter
that tests one (`keys_compile_of_key?`), and a keyword for a group.  A check for numbers counts
as a group here, for it is spelled as one. -/

namespace DocFilter

/-- The negation of what is asked of one key. -/
def negation (v : Value) : Value := .document [("$not", v)]

theorem negated_eq_map (d : Document) :
    negated d = d.map fun m => (m.1, negation m.2) := rfl

namespace Filter

theorem compile_iterate_not (n : Nat) (f : Filter) :
    (not^[n] f).compile = f.compile.map fun m => (m.1, negation^[n] m.2) := by
  induction n with
  | zero => simp
  | succ n ih =>
      rw [Function.iterate_succ_apply', compile, negated_eq_map, ih, List.map_map]
      refine List.map_congr_left fun m _ => ?_
      exact congrArg (Prod.mk m.1) (Function.iterate_succ_apply' negation n m.2).symm

/-- The keys below all negations are the keys above them. -/
theorem keys_compile_iterate_not (n : Nat) (f : Filter) :
    (not^[n] f).compile.keys = f.compile.keys := by
  rw [compile_iterate_not, Document.keys, List.map_map]
  rfl

theorem values_compile_iterate_not (n : Nat) (f : Filter) :
    (not^[n] f).compile.values = f.compile.values.map negation^[n] := by
  rw [compile_iterate_not, Document.values, Document.values, List.map_map, List.map_map]
  rfl

theorem keys_compile_number (key : String) :
    (typeIs key .number).compile.keys = ["$or"] := rfl

/-- Only a check for numbers does not stand at the field that it tests. -/
theorem keys_compile_of_key? {f : Filter} {key : String} (h : f.key? = some key)
    (hnumber : f ≠ typeIs key .number) : f.compile.keys = [key] := by
  cases f with
  | nothing | group | not | raw => cases h
  | typeIs k type =>
      cases h
      have htype : type ≠ .number := fun h => hnumber (congrArg (typeIs key) h)
      rw [compile, typeDocument, if_neg htype]
      rfl
  | _ =>
      cases h
      rfl

/-- Only the empty condition and negations are negations of the empty condition, none or more. -/
theorem not_exists_iterate_not {f : Filter} (hnothing : f ≠ nothing) (hnot : ∀ g, f ≠ not g) :
    ¬ ∃ n, f = not^[n] nothing := by
  rintro ⟨_ | n, rfl⟩
  · exact hnothing rfl
  · exact hnot _ (Function.iterate_succ_apply' not n nothing)

theorem not_eq_iterate_iff (f : Filter) :
    (∃ n, not f = not^[n] nothing) ↔ ∃ n, f = not^[n] nothing := by
  constructor
  · rintro ⟨_ | n, hn⟩
    · cases hn
    · rw [Function.iterate_succ_apply'] at hn
      exact ⟨n, not.inj hn⟩
  · rintro ⟨n, rfl⟩
    exact ⟨n + 1, (Function.iterate_succ_apply' not n nothing).symm⟩

/-- Without raw nodes, only the empty condition asks for nothing, negated or not. -/
theorem compile_eq_nil_iff (f : Filter) : EveryNode (fun _ g => ¬ g.isRaw) f →
    (f.compile = [] ↔ ∃ n, f = not^[n] nothing) := by
  induction f using induction_children with
  | node f ih =>
      intro h
      obtain ⟨hroot, hbelow⟩ := (everyNode_iff _ f).mp h
      cases f with
      | nothing => exact iff_of_true rfl ⟨0, rfl⟩
      | not f =>
          have hf : f ∈ (not f).children := List.mem_singleton_self f
          rw [compile, negated, List.map_eq_nil_iff, ih f hf (hbelow f hf), not_eq_iterate_iff]
      | raw d => exact absurd rfl hroot
      | typeIs key type =>
          refine iff_of_false ?_ (not_exists_iterate_not (by simp) (by simp))
          rw [compile, typeDocument]
          split <;> exact List.cons_ne_nil _ _
      | _ =>
          refine iff_of_false ?_ (not_exists_iterate_not (by simp) (by simp))
          rw [compile]
          exact List.cons_ne_nil _ _

/-- Negations keep the keys of a document in their order and wrap each value as often as they are
many.  A filter without raw nodes has one key at most, and none only if it is empty below all
negations.  A filter that tests a field has it as its only key, unless it is a check for numbers. -/
theorem toDocument_negations_and_keys (f : Filter) :
    (∀ n, (not^[n] f).toDocument.keys = f.toDocument.keys ∧
      (not^[n] f).toDocument.values = f.toDocument.values.map negation^[n]) ∧
    (EveryNode (fun _ g => ¬ g.isRaw) f →
      f.toDocument.keys.length ≤ 1 ∧
        (f.toDocument.keys = [] ↔ ∃ n, f = not^[n] nothing)) ∧
    (∀ key, f.key? = some key →
      (f ≠ typeIs key .number → f.toDocument.keys = [key]) ∧
        (f = typeIs key .number → f.toDocument.keys = ["$or"])) := by
  simp only [toDocument_eq]
  refine ⟨fun n => ?_, fun h => ⟨?_, ?_⟩, fun key h => ⟨keys_compile_of_key? h, ?_⟩⟩
  · exact ⟨keys_compile_iterate_not n f, values_compile_iterate_not n f⟩
  · rw [Document.keys, List.length_map]
    exact length_compile_le_one f h
  · rw [Document.keys, List.map_eq_nil_iff]
    exact compile_eq_nil_iff f h
  · rintro rfl
    exact keys_compile_number key

/-- A negated raw document with two keys, a check for numbers below negations, conditions that are
empty below them, and a pattern at a key that looks like an operator. -/
theorem toDocument_negations_and_keys_mixed :
    let pair : Filter := raw [("b", .null), ("$and", .bool true)]
    let number : Filter := not (not (typeIs "" .number))
    let empty : Filter := not (not (not nothing))
    let pattern : Filter := matching .lineStart "$or" "x" ""
    (not (not pair)).toDocument.keys = ["b", "$and"] ∧
      (not (not pair)).toDocument.values =
        [negation (negation .null), negation (negation (.bool true))] ∧
      number.toDocument.keys = ["$or"] ∧ number.toDocument.keys.length ≤ 1 ∧
      empty.toDocument.keys = [] ∧ pattern.toDocument.keys = ["$or"] := by
  intro pair number empty pattern
  obtain ⟨hkeys, hvalues⟩ := (toDocument_negations_and_keys pair).1 2
  obtain ⟨hnegations, -, hfield⟩ := toDocument_negations_and_keys (typeIs "" .number)
  have hnumber : EveryNode (fun _ g => ¬ g.isRaw) number := by decide
  have hempty : EveryNode (fun _ g => ¬ g.isRaw) empty := by decide
  refine ⟨hkeys, hvalues, ?_, ?_, ?_, ?_⟩
  · exact (hnegations 2).1.trans ((hfield "" rfl).2 rfl)
  · exact ((toDocument_negations_and_keys number).2.1 hnumber).1
  · exact ((toDocument_negations_and_keys empty).2.1 hempty).2.mpr ⟨3, rfl⟩
  · exact ((toDocument_negations_and_keys pattern).2.2 "$or" rfl).1 nofun

end Filter
end DocFilter

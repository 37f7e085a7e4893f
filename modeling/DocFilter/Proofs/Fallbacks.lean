import DocFilter.Proofs.Reading
import Mathlib.Data.List.Forall2

/-! # What is reported

The events of the reader against the filter that it finds.  `rawLeaves` lists the raw documents of a
filter from left to right, each with its depth, and `Reports` says which event stands for one.  The
reader reports each of them once and in this order, and nothing else (`Accounted`).

A computation that is accounted for stays so when its filter is put under a node
(`accounted_elemMatch`, `accounted_group`), so that it is enough to look at one step of the reader
(`accounted_ofMemberWith`) to follow it through a document (`accounted_ofDocumentAt`).  Compiling
reports one thing more, which is how many keys the document at the root has
(`events_parse_and_toDocument`). -/

namespace DocFilter
namespace Filter

mutual
/-- The raw documents of a filter that stands at a depth, from left to right, with their depths. -/
def rawLeaves (depth : Nat) : Filter → List (Nat × Document)
  | raw d => [(depth, d)]
  | elemMatch _ condition | not condition => condition.rawLeaves (depth + 1)
  | group _ conditions => allRawLeaves (depth + 1) conditions
  | _ => []

def allRawLeaves (depth : Nat) : List Filter → List (Nat × Document)
  | [] => []
  | f :: fs => f.rawLeaves depth ++ allRawLeaves depth fs
end

/-- The event for a raw document at a depth, and how serious it is. -/
inductive Reports (maxDepth : Nat) : Nat × Document → Severity → Event → Prop
  | several {depth : Nat} {d : Document} : 1 < d.length →
      Reports maxDepth (depth, d) .trace (.multiKeyKept d.length)
  | limit {depth : Nat} {key : String} {value : Value} : maxDepth ≤ depth →
      Reports maxDepth (depth, [(key, value)]) .debug (.depthExceeded key depth)
  | unknown {depth : Nat} {key : String} {value : Value} : depth < maxDepth →
      Reports maxDepth (depth, [(key, value)]) .trace (.unrecognized key)

/-- The events of a computation are those for the raw documents of its filter, which stands at a
depth: one for each and in their order. -/
def Accounted (maxDepth depth : Nat) (x : Logged Filter) : Prop :=
  List.Forall₂ (fun leaf event => Reports maxDepth leaf event.severity event)
    (x.value.rawLeaves depth) x.events

theorem allRawLeaves_eq_flatMap (depth : Nat) (fs : List Filter) :
    allRawLeaves depth fs = fs.flatMap (rawLeaves depth) := by
  induction fs with
  | nil => rw [allRawLeaves, List.flatMap_nil]
  | cons f fs ih => rw [allRawLeaves, ih, List.flatMap_cons]

theorem forall₂_flatMap {α β γ : Type} {R : α → β → Prop} {f : γ → List α} {g : γ → List β}
    {xs : List γ} (h : ∀ x ∈ xs, List.Forall₂ R (f x) (g x)) :
    List.Forall₂ R (xs.flatMap f) (xs.flatMap g) := by
  induction xs with
  | nil => exact .nil
  | cons x xs ih =>
      rw [List.flatMap_cons, List.flatMap_cons]
      exact List.rel_append (h x (by simp)) (ih fun y hy => h y (by simp [hy]))

section
variable {maxDepth depth : Nat}

/-! ### Steps -/

theorem accounted_silent {f : Filter} (h : f.rawLeaves depth = []) :
    Accounted maxDepth depth (.silent f) := by
  rw [Accounted, Logged.silent, h]
  exact .nil

theorem accounted_raw {d : Document} {event : Event}
    (h : Reports maxDepth (depth, d) event.severity event) :
    Accounted maxDepth depth (.reporting event (raw d)) := by
  rw [Accounted, Logged.reporting, rawLeaves]
  exact .cons h .nil

theorem accounted_elemMatch {x : Logged Filter} (key : String)
    (h : Accounted maxDepth (depth + 1) x) :
    Accounted maxDepth depth (x.map (elemMatch key)) := by
  rw [Accounted, Logged.map, rawLeaves]
  exact h

theorem accounted_group {xs : List (Logged Filter)} (c : Connective)
    (h : ∀ x ∈ xs, Accounted maxDepth (depth + 1) x) :
    Accounted maxDepth depth ((Logged.all xs).map (group c)) := by
  rw [Accounted, Logged.map, Logged.all, rawLeaves, allRawLeaves_eq_flatMap, List.flatMap_map]
  exact forall₂_flatMap h

/-- Above the limit, a member is accounted for when the documents in it are. -/
theorem accounted_ofMemberWith {read : Document → Logged Filter} {key : String} {value : Value}
    (hdepth : depth < maxDepth)
    (h : ∀ d ∈ (Shape.of key value).documents, Accounted maxDepth (depth + 1) (read d)) :
    Accounted maxDepth depth (ofMemberWith read (key, value)) := by
  unfold ofMemberWith
  dsimp only
  cases hs : Shape.of key value with
  | logical c ds =>
      rw [hs] at h
      exact accounted_group c (List.forall_mem_map.mpr h)
  | comparison op operand => exact accounted_silent rfl
  | membership values => exact accounted_silent rfl
  | elemMatch d =>
      rw [hs] at h
      exact accounted_elemMatch key (h d (List.mem_singleton_self d))
  | unknown => exact accounted_raw (.unknown hdepth)

end

/-! ### Runs -/

/-- The levels that are left tell the depth: they are what lies between it and the limit.  Where
they are used up, members are reported at the depth that they have in the filter. -/
theorem accounted_ofDocumentAt (multiKey : MultiKey) (maxDepth levels : Nat) (d : Document) :
    ∀ depth, maxDepth - depth = levels →
      Accounted maxDepth depth (ofDocumentAt multiKey levels depth d) := by
  induction levels, d using induction_levels with
  | empty levels => exact fun depth _ => accounted_silent rfl
  | cut key value =>
      intro depth hdepth
      rw [ofDocumentAt_singleton, ofMember_zero]
      exact accounted_raw (.limit (by omega))
  | member levels key value ih =>
      intro depth hdepth
      rw [ofDocumentAt_singleton, ofMember_succ]
      exact accounted_ofMemberWith (by omega) fun d hd => ih d hd (depth + 1) (by omega)
  | several levels d hd ih =>
      intro depth hdepth
      cases multiKey with
      | passthrough =>
          rw [ofDocumentAt_passthrough _ _ hd]
          exact accounted_raw (.several hd)
      | conjunction =>
          rw [ofDocumentAt_conjunction _ _ hd]
          refine accounted_group .and (List.forall_mem_map.mpr fun m hm => ?_)
          exact ih m hm (depth + 1) (by omega)

/-- How many keys a document has at the root when it was read and compiled: its own, or the one of
the conjunction of its members. -/
theorem length_restated (multiKey : MultiKey) (levels : Nat) (d : Document) :
    (restated multiKey levels d).length =
      match multiKey with
      | .passthrough => d.length
      | .conjunction => min d.length 1 := by
  cases d using Document.cases_members with
  | empty =>
      rw [restated_nil]
      cases multiKey <;> rfl
  | single key value =>
      have hone : (restated multiKey levels [(key, value)]).length = 1 := by
        cases levels with
        | zero => rw [restated_one_zero, List.length_singleton]
        | succ n => rw [restated_one_succ, List.length_singleton]
      rw [hone]
      cases multiKey <;> rfl
  | several d hd =>
      cases multiKey with
      | passthrough => rw [restated_passthrough levels hd]
      | conjunction =>
          rw [restated_conjunction levels hd, List.length_singleton]
          exact (Nat.min_eq_right (Nat.le_of_lt hd)).symm

/-- Each raw document of a filter that was read is reported once, in the order of the filter, by the
event for the reason that it was kept for, and nothing else is.  Compiling the filter then reports
the number of keys at the root. -/
theorem events_parse_and_toDocument (config : ParseConfig) (d : Document) :
    List.Forall₂ (fun leaf event => Reports config.maxDepth leaf event.severity event)
        ((ofDocument config d).rawLeaves 0) (parse config d).events ∧
      (ofDocument config d).toDocumentLogged.events.map (fun event => (event.severity, event)) =
        [(.trace, .compiled (ofDocument config d).toDocument.length)] ∧
      (ofDocument config d).toDocument.length =
        match config.multiKey with
        | .passthrough => d.length
        | .conjunction => min d.length 1 :=
  ⟨accounted_ofDocumentAt config.multiKey config.maxDepth config.maxDepth d 0 (Nat.sub_zero _), rfl,
    length_restated config.multiKey config.maxDepth d⟩

/-- Each kind of raw document once, in the order of the filter. -/
example :
    (parse ⟨.passthrough, 2⟩ [("$and", .array [.document [("a", .null), ("b", .null)],
      .document [("$or", .array [.document [("c", .null)]])], .document [("d", .null)]])]).events =
      [.multiKeyKept 2, .depthExceeded "c" 2, .unrecognized "d"] := by
  decide

end Filter
end DocFilter

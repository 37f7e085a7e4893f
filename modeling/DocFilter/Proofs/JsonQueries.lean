import DocFilter.Json.Query
import DocFilter.Proofs.EqualDocuments
import DocFilter.Proofs.JsonValues
import DocFilter.Proofs.RoundTrip

/-! # Queries that are read back from JSON

A query is written as its document and read from one.  When the reader has a shape for all of its
nodes, and no key of a field looks like an operator, the document is a value with a form of its own
in JSON (`Filter.isPlain_compile`).  It comes back with its negative numbers widened, which is the
document of the query with the same numbers widened (`Filter.compile_widened`).  Every node lies
two levels deeper in the text than the node above it, so that the tree of a query is not too deep
when its text is not (`Filter.depth_of_nodeAt`).

So the query that is read back is the one that was written, but for its negative numbers, and it is
equal to that one exactly when there are none (`Query.ofJsonText?_toJsonText`). -/

namespace DocFilter
namespace Filter

/-! ### Changing the values of a filter -/

mutual
/-- The filter with other values in its comparisons and memberships. -/
def mapValues (change : Value → Value) : Filter → Filter
  | compare op key value => compare op key (change value)
  | isIn key values => isIn key (values.map change)
  | elemMatch key condition => elemMatch key (condition.mapValues change)
  | not condition => not (condition.mapValues change)
  | group connective conditions => group connective (mapAllValues change conditions)
  | f => f

def mapAllValues (change : Value → Value) : List Filter → List Filter
  | [] => []
  | f :: fs => f.mapValues change :: mapAllValues change fs
end

section
variable (change : Value → Value)

theorem mapAllValues_eq_map (fs : List Filter) :
    mapAllValues change fs = fs.map (mapValues change) := by
  induction fs with
  | nil => rw [mapAllValues, List.map_nil]
  | cons f fs ih => rw [mapAllValues, ih, List.map_cons]

theorem children_mapValues (f : Filter) :
    (f.mapValues change).children = f.children.map (mapValues change) := by
  cases f with
  | group c fs => exact mapAllValues_eq_map change fs
  | _ => simp [mapValues, children]

/-- The nodes stay where they are. -/
theorem everyNode_mapValues (p : Nat → Filter → Prop) (f : Filter) :
    EveryNode p (f.mapValues change) ↔ EveryNode (fun i g => p i (g.mapValues change)) f := by
  induction f using induction_children generalizing p with
  | node f ih =>
      rw [everyNode_iff, everyNode_iff, children_mapValues, List.forall_mem_map]
      exact and_congr_right' (forall_congr' fun g => forall_congr' fun hg => ih g hg _)

theorem isReadable_mapValues (f : Filter) : (f.mapValues change).isReadable = f.isReadable := by
  cases f <;> rfl

/-- The changed filter is equal to the filter when no value is changed to another one. -/
theorem same_mapValues_iff {f : Filter} (hread : EveryNode (fun _ g => g.isReadable) f) :
    (f.mapValues change).same f = true ↔
      EveryNode (fun _ g => ∀ v ∈ g.payload, (change v).equal v = true) f := by
  induction f using induction_children with
  | node f ih =>
      obtain ⟨hroot, hbelow⟩ := (everyNode_iff _ f).mp hread
      have hchildren : (∀ g ∈ f.children, (g.mapValues change).same g = true) ↔
          ∀ g ∈ f.children, EveryNode (fun _ g => ∀ v ∈ g.payload, (change v).equal v = true) g :=
        forall_congr' fun g => forall_congr' fun hg => ih g hg (hbelow g hg)
      rw [everyNode_iff, ← hchildren]
      cases f with
      | nothing => simp [mapValues, same, payload, children]
      | compare op key v => simp [mapValues, same, payload, children]
      | isIn key vs =>
          simp [mapValues, same, payload, children, allEqual_iff_forall₂, List.forall₂_map_left_iff,
            List.forall₂_same]
      | elemMatch key f => simp [mapValues, same, payload, children]
      | group c fs =>
          simp [mapValues, same, payload, children, mapAllValues_eq_map, allSame_iff,
            List.forall₂_map_left_iff, List.forall₂_same]
      | _ => cases hroot

end

/-- Values are widened in a filter as they are in its document. -/
theorem compile_widened {f : Filter} (hread : EveryNode (fun _ g => g.isReadable) f) :
    (f.mapValues Value.widened).compile = widenedMembers f.compile := by
  induction f using induction_children with
  | node f ih =>
      obtain ⟨hroot, hbelow⟩ := (everyNode_iff _ f).mp hread
      have hchildren : ∀ g ∈ f.children,
          (g.mapValues Value.widened).compile = widenedMembers g.compile :=
        fun g hg => ih g hg (hbelow g hg)
      cases f with
      | nothing => simp [mapValues, compile, widenedMembers]
      | compare op key v =>
          simp [mapValues, compile, clause, widenedMembers, Value.widened]
      | isIn key vs =>
          simp [mapValues, compile, clause, widenedMembers, Value.widened, widenedItems_eq_map]
      | elemMatch key f =>
          have hf := hchildren f (by simp [children])
          simp [mapValues, compile, clause, widenedMembers, Value.widened, hf]
      | group c fs =>
          have hfs : ∀ g ∈ fs,
              (g.mapValues Value.widened).compile = widenedMembers g.compile := hchildren
          simpa [mapValues, compile, widenedMembers, Value.widened, mapAllValues_eq_map,
            compileAll_eq_map, widenedItems_eq_map] using hfs
      | _ => cases hroot

/-! ### Documents with a form of their own -/

theorem isPlain_one {isKey : String → Bool} {key : String} {v : Value} (hkey : isKey key = true)
    (h : v.IsPlain isKey) : (Value.document [(key, v)]).IsPlain isKey := by
  rw [Value.isPlain_document]
  simpa [Document.keys, Document.values] using And.intro hkey h

/-- No keyword of an operator marks another kind of value. -/
theorem isMemberKey_keyword :
    (∀ op : Comparison, Json.isMemberKey op.keyword = true) ∧
      (∀ c : Connective, Json.isMemberKey c.keyword = true) ∧
      Json.isMemberKey "$in" = true ∧ Json.isMemberKey "$elemMatch" = true :=
  ⟨fun op => by cases op <;> decide, fun c => by cases c <;> decide, by decide, by decide⟩

/-- Keywords and keys of fields are the keys of the document, down to the values of the filter. -/
theorem isPlain_compile {f : Filter} (hread : EveryNode (fun _ g => g.isReadable) f)
    (hkeys : EveryNode (fun _ g => ∀ key ∈ g.key?, isFieldKey key = true) f)
    (hvalues : EveryNode (fun _ g => ∀ v ∈ g.payload, v.IsPlain isFieldKey) f) :
    (Value.document f.compile).IsPlain Json.isMemberKey := by
  obtain ⟨hcomparison, hconnective, hin, helem⟩ := isMemberKey_keyword
  induction f using induction_children with
  | node f ih =>
      obtain ⟨hroot, hreadBelow⟩ := (everyNode_iff _ f).mp hread
      obtain ⟨hkey, hkeysBelow⟩ := (everyNode_iff _ f).mp hkeys
      obtain ⟨hpayload, hvaluesBelow⟩ := (everyNode_iff _ f).mp hvalues
      have hchildren : ∀ g ∈ f.children, (Value.document g.compile).IsPlain Json.isMemberKey :=
        fun g hg => ih g hg (hreadBelow g hg) (hkeysBelow g hg) (hvaluesBelow g hg)
      have hfield : ∀ key ∈ f.key?, Json.isMemberKey key = true :=
        fun key hmem => Json.isMemberKey_of_isFieldKey (hkey key hmem)
      have hplain : ∀ v ∈ f.payload, v.IsPlain Json.isMemberKey :=
        fun v hv => (hpayload v hv).mono fun _ => Json.isMemberKey_of_isFieldKey
      cases f with
      | nothing =>
          rw [compile, Value.isPlain_document]
          simp [Document.keys, Document.values]
      | compare op key v =>
          rw [compile]
          exact isPlain_one (hfield key rfl)
            (isPlain_one (hcomparison op) (hplain v (by simp [payload])))
      | isIn key vs =>
          rw [compile]
          exact isPlain_one (hfield key rfl) (isPlain_one hin (Value.isPlain_array.mpr hplain))
      | elemMatch key f =>
          rw [compile]
          exact isPlain_one (hfield key rfl)
            (isPlain_one helem (hchildren f (by simp [children])))
      | group c fs =>
          rw [compile, compileAll_eq_map]
          exact isPlain_one (hconnective c)
            (Value.isPlain_array.mpr (List.forall_mem_map.mpr hchildren))
      | _ => cases hroot

/-! ### Nesting -/

/-- How deep the text of a filter is nested. -/
def jsonDepth (f : Filter) : Nat := (Value.document f.toDocument).toJson.depth

theorem depth_le_depthItems {items : List Json} {j : Json} (h : j ∈ items) :
    j.depth ≤ Json.depthItems items := by
  induction items with
  | nil => cases h
  | cons item items ih =>
      rw [Json.depthItems]
      rcases List.mem_cons.mp h with rfl | h
      · exact Nat.le_max_left _ _
      · exact Nat.le_trans (ih h) (Nat.le_max_right _ _)

theorem depth_one (key : String) (v : Value) :
    (Value.document [(key, v)]).toJson.depth = v.toJson.depth + 1 := by
  simp [Value.toJson, toJsonMembers, Json.depth, Json.depthMembers, Nat.add_comm]

theorem jsonDepth_child {f g : Filter} (hf : f.isReadable = true) (hg : g ∈ f.children) :
    g.jsonDepth + 2 ≤ f.jsonDepth := by
  cases f with
  | elemMatch key f =>
      obtain rfl := List.mem_singleton.mp hg
      rw [jsonDepth, jsonDepth, toDocument_eq, toDocument_eq, compile, clause, depth_one, depth_one]
  | group c fs =>
      have hmem : (Value.document g.compile).toJson ∈
          toJsonItems (fs.map fun f => .document f.compile) := by
        rw [toJsonItems_eq_map, List.map_map]
        exact List.mem_map_of_mem hg
      have := depth_le_depthItems hmem
      rw [jsonDepth, jsonDepth, toDocument_eq, toDocument_eq, compile, compileAll_eq_map, depth_one,
        Value.toJson, Json.depth]
      omega
  | not f => cases hf
  | _ => cases hg

/-- Every level of a filter takes two levels of its text. -/
theorem depth_of_nodeAt {f g : Filter} {i : Nat} (hread : EveryNode (fun _ g => g.isReadable) f)
    (h : NodeAt f i g) : 2 * i + 1 ≤ f.jsonDepth := by
  induction h with
  | root f =>
      rw [jsonDepth, Value.toJson, Json.depth]
      omega
  | child hmem _ ih =>
      obtain ⟨hroot, hbelow⟩ := (everyNode_iff _ _).mp hread
      have := ih (hbelow _ hmem)
      have := jsonDepth_child hroot hmem
      omega

end Filter

/-! ### Queries -/

namespace Query

/-- The query with all negative integers of 32 bits in it as integers of 64 bits. -/
def widened (q : Query) : Query := ⟨q.filter.mapValues Value.widened⟩

open DocFilter.Filter

section
variable {q : Query} (hread : EveryNode (fun _ g => g.isReadable) q.filter)
  (hdepth : q.toJson.depth < 128)
include hread hdepth

/-- The value that a query is written as is the document of the widened query. -/
theorem documentOfJson?_toJson
    (hplain : (Value.document q.toDocument).IsPlain Json.isMemberKey) :
    Document.ofJson? q.toJson = some q.widened.toDocument := by
  have hbound : q.toJson.depth ≤ Json.depthBound := Nat.le_of_lt_succ hdepth
  have hvalue : Value.ofJson? q.toJson = some (Value.document q.toDocument).widened :=
    Value.ofJson?_toJson hplain
  rw [Document.ofJson?, if_pos hbound, hvalue, Value.widened, Query.toDocument,
    toDocument_eq, ← compile_widened hread]
  rfl

/-- No node lies as deep as the limit, since its text would be nested deeper still. -/
theorem ofDocument_toDocument_widened :
    Filter.ofDocument {} q.widened.toDocument = q.widened.filter := by
  rw [ofDocument_eq, Query.toDocument, toDocument_eq]
  refine readDocument_compile _ _ _ ?_ ?_
  · rw [widened, everyNode_mapValues]
    simpa only [isReadable_mapValues] using hread
  · rw [widened, everyNode_mapValues]
    intro i g hg _
    have hnode := depth_of_nodeAt hread hg
    have hbound : q.filter.jsonDepth < 128 := hdepth
    show i < 100
    omega

end

/-- A query is read back with its negative integers widened, and nothing else changed. -/
theorem ofJsonText?_toJsonText (q : Query)
    (hread : EveryNode (fun _ g => g.isReadable) q.filter)
    (hkeys : EveryNode (fun _ g => ∀ key ∈ g.key?, isFieldKey key = true) q.filter)
    (hvalues : EveryNode (fun _ g => ∀ v ∈ g.payload, v.IsPlain isFieldKey) q.filter)
    (hdepth : q.toJson.depth < 128) :
    ofJsonText? q.toJsonText = some q.widened ∧
      (q.widened.same q = true ↔ EveryNode (fun _ g => ∀ v ∈ g.payload,
        v.EveryPart fun w => w.isNegativeInt32 = false) q.filter) := by
  have hplain := isPlain_compile hread hkeys hvalues
  have htext : Json.read? q.toJsonText = some q.toJson :=
    Json.read?_write (Value.plain_toJson hplain)
  have hdocument := documentOfJson?_toJson hread hdepth hplain
  have hfilter := ofDocument_toDocument_widened hread hdepth
  constructor
  · simp [ofJsonText?, htext, hdocument, ofDocument, hfilter]
  · rw [same, widened, same_mapValues_iff _ hread]
    simp only [Value.equal_widened_iff, Value.widened_eq_self_iff]

/-- The numbers at the ends of 32 bits, keys and texts that need escapes, and an empty condition. -/
theorem ofJsonText?_toJsonText_limits :
    let q : Query := ⟨group .and
      [compare .gte "a\x00" (.document
          [("b", .array [.int32 (-2147483648), .null]), ("", .string "$\n\"")]),
        elemMatch "c" (group .or [isIn "d" [.int32 2147483647, .bool true], nothing])]⟩
    EveryNode (fun _ g => g.isReadable) q.filter ∧
      EveryNode (fun _ g => ∀ key ∈ g.key?, isFieldKey key = true) q.filter ∧
      EveryNode (fun _ g => ∀ v ∈ g.payload, v.IsPlain isFieldKey) q.filter ∧
      q.toJson.depth < 128 ∧ ofJsonText? q.toJsonText = some q.widened ∧
      q.widened.same q = false := by
  intro q
  have hread : EveryNode (fun _ g => g.isReadable) q.filter := by decide
  have hkeys : EveryNode (fun _ g => ∀ key ∈ g.key?, isFieldKey key = true) q.filter := by decide
  have hvalues : EveryNode (fun _ g => ∀ v ∈ g.payload, v.IsPlain isFieldKey) q.filter := by
    decide +kernel
  have hdepth : q.toJson.depth < 128 := by decide
  obtain ⟨hback, hsame⟩ := ofJsonText?_toJsonText q hread hkeys hvalues hdepth
  have hnegative : ¬ EveryNode (fun _ g => ∀ v ∈ g.payload,
      v.EveryPart fun w => w.isNegativeInt32 = false) q.filter := by decide +kernel
  exact ⟨hread, hkeys, hvalues, hdepth, hback, Bool.eq_false_iff.mpr (mt hsame.mp hnegative)⟩

/-- A negative number comes back with another type. -/
theorem not_forall_same_ofJsonText? : ¬ ∀ q : Query,
    EveryNode (fun _ g => g.isReadable) q.filter →
    EveryNode (fun _ g => ∀ key ∈ g.key?, isFieldKey key = true) q.filter →
    EveryNode (fun _ g => ∀ v ∈ g.payload, v.IsPlain isFieldKey) q.filter →
    EveryNode (fun i _ => i < ({} : ParseConfig).maxDepth) q.filter → q.toJson.depth < 128 →
    ∃ r, ofJsonText? q.toJsonText = some r ∧ r.same q = true := by
  intro h
  let q : Query := ⟨compare .eq "a" (.int32 (-1))⟩
  obtain ⟨r, hr, hsame⟩ := h q (by decide) (by decide) (by decide) (by decide) (by decide)
  have hback : (ofJsonText? q.toJsonText).map (·.same q) = some false := by decide +kernel
  rw [hr, Option.map_some, hsame] at hback
  cases hback

end Query
end DocFilter

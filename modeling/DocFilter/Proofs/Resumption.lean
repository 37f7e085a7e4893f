import DocFilter.Proofs.Containers
import DocFilter.Proofs.Nodes
import DocFilter.Proofs.SpelledOut
import Mathlib.Data.List.MinMax
import Mathlib.Order.Nat

/-! # Reading on where the limit was

Where several members are left alone, the depth limit only decides how far a document is read.  Each
raw document of a filter can be read later, with the levels that were missing (`readDocument_add`):
one that was kept at the limit becomes what it would have been, and one that was kept for another
reason stays as it is under every limit.

So a greater limit adds nodes and changes none above the old limit (`upper_readDocument_add`), and
all limits from `nesting` on, which counts the levels that there are in a document, give one filter
(`readDocument_eq_of_nesting_le`). -/

namespace DocFilter

/-- What is in a list is right inside its value. -/
theorem Value.parts_of_listItems? {v : Value} {items : List Value} (h : v.listItems? = some items) :
    v.parts = items := by
  unfold listItems? at h
  split at h
  · cases h; rfl
  · unfold Document.asList? at h
    split at h
    · cases h; rfl
    · cases h
  · cases h

theorem Shape.sizeOf_lt_of_mem_documents {key : String} {value : Value} {d : Document}
    (h : d ∈ (of key value).documents) : sizeOf d < sizeOf value := by
  have hr := recognised key value
  generalize of key value = s at hr h
  cases hr with
  | logical hitems =>
      obtain ⟨items, hlist, hds⟩ := Option.bind_eq_some_iff.mp hitems
      have hmem : Value.document d ∈ value.parts := by
        rw [Value.parts_of_listItems? hlist, map_document_of_mapM hds]
        exact List.mem_map_of_mem h
      have := Value.sizeOf_lt_of_mem_parts hmem
      rw [Value.document.sizeOf_spec] at this
      omega
  | elemMatch =>
      rw [documents, List.mem_singleton] at h
      subst h
      simp only [Value.document.sizeOf_spec, List.cons.sizeOf_spec, Prod.mk.sizeOf_spec]
      omega
  | _ => cases h

namespace Filter

mutual
/-- The filter with another filter in the place of each raw document. -/
def mapRaw (read : Document → Filter) : Filter → Filter
  | raw d => read d
  | elemMatch key condition => elemMatch key (condition.mapRaw read)
  | not condition => not (condition.mapRaw read)
  | group connective conditions => group connective (mapAllRaw read conditions)
  | f => f

def mapAllRaw (read : Document → Filter) : List Filter → List Filter
  | [] => []
  | f :: fs => f.mapRaw read :: mapAllRaw read fs
end

mutual
/-- The nodes above a depth, with `nothing` in the place of each filter that begins at the depth. -/
def upper : Nat → Filter → Filter
  | 0, _ => nothing
  | levels + 1, elemMatch key condition => elemMatch key (condition.upper levels)
  | levels + 1, not condition => not (condition.upper levels)
  | levels + 1, group connective conditions => group connective (upperAll levels conditions)
  | _ + 1, f => f

def upperAll : Nat → List Filter → List Filter
  | _, [] => []
  | levels, f :: fs => f.upper levels :: upperAll levels fs
end

/-- How many levels the reader finds in a document when it has as many as it needs and leaves
several members alone. -/
def nesting : Document → Nat
  | [(key, value)] =>
    ((Shape.of key value).documents.attach.map fun ⟨d, _⟩ => nesting d).foldr max 0 + 1
  | _ => 0
termination_by d => sizeOf d
decreasing_by
  rename_i hmem
  have := Shape.sizeOf_lt_of_mem_documents hmem
  simp only [List.cons.sizeOf_spec, Prod.mk.sizeOf_spec]
  omega

theorem mapAllRaw_eq_map (read : Document → Filter) (fs : List Filter) :
    mapAllRaw read fs = fs.map (mapRaw read) := by
  induction fs with
  | nil => rw [mapAllRaw, List.map_nil]
  | cons f fs ih => rw [mapAllRaw, ih, List.map_cons]

theorem upperAll_eq_map (levels : Nat) (fs : List Filter) :
    upperAll levels fs = fs.map (upper levels) := by
  induction fs with
  | nil => rw [upperAll, List.map_nil]
  | cons f fs ih => rw [upperAll, ih, List.map_cons]

/-! ### Reading on -/

theorem readDocument_unknown (multiKey : MultiKey) (levels : Nat) {key : String} {value : Value}
    (h : Shape.of key value = .unknown) :
    readDocument multiKey levels [(key, value)] = rawMember (key, value) := by
  cases levels with
  | zero => rw [readDocument_one_zero]
  | succ n => rw [readDocument_one_succ, h, ofShape]

/-- Inside a shape the raw documents are those of the documents in it.  A member of no known shape
is raw itself. -/
theorem mapRaw_ofShape (read later : Document → Filter) (key : String) (value : Value) (s : Shape)
    (h : s = .unknown → later [(key, value)] = rawMember (key, value)) :
    (ofShape read (key, value) s).mapRaw later =
      ofShape (fun d => (read d).mapRaw later) (key, value) s := by
  cases s with
  | logical c ds =>
      rw [ofShape, mapRaw, mapAllRaw_eq_map, List.map_map]
      rfl
  | unknown => exact h rfl
  | _ => simp only [ofShape, mapRaw]

/-- What is read with more levels is what is read with fewer when the raw documents are read with
the rest of them. -/
theorem readDocument_add (levels more : Nat) (d : Document) :
    readDocument .passthrough (levels + more) d =
      (readDocument .passthrough levels d).mapRaw (readDocument .passthrough more) := by
  induction levels, d using induction_levels with
  | empty levels => rfl
  | cut key value => rw [Nat.zero_add, readDocument_one_zero, rawMember, mapRaw]
  | member levels key value ih =>
      rw [Nat.add_right_comm, readDocument_one_succ, readDocument_one_succ,
        mapRaw_ofShape _ _ key value _ fun hs => readDocument_unknown _ more hs]
      exact ofShape_congr _ _ ih
  | several levels d hd _ =>
      rw [readDocument_passthrough _ hd, readDocument_passthrough _ hd, mapRaw,
        readDocument_passthrough _ hd]

/-! ### Above the limit -/

theorem upper_ofShape (read : Document → Filter) (member : String × Value) (s : Shape)
    (levels : Nat) :
    (ofShape read member s).upper (levels + 1) =
      ofShape (fun d => (read d).upper levels) member s := by
  cases s with
  | logical c ds =>
      rw [ofShape, upper, upperAll_eq_map, List.map_map]
      rfl
  | _ => simp only [ofShape, rawMember, upper]

/-- More levels change nothing above the limit that was there. -/
theorem upper_readDocument_add (levels more : Nat) (d : Document) :
    (readDocument .passthrough (levels + more) d).upper levels =
      (readDocument .passthrough levels d).upper levels := by
  induction levels, d using induction_levels with
  | empty levels => rw [readDocument_nil, readDocument_nil]
  | cut key value => rw [upper, upper]
  | member levels key value ih =>
      rw [Nat.add_right_comm, readDocument_one_succ, readDocument_one_succ, upper_ofShape,
        upper_ofShape]
      exact ofShape_congr _ _ ih
  | several levels d hd _ => rw [readDocument_passthrough _ hd, readDocument_passthrough _ hd]

/-! ### Beyond the last level -/

theorem nesting_nil : nesting [] = 0 := by
  rw [nesting]
  exact nofun

theorem nesting_several {d : Document} (h : 1 < d.length) : nesting d = 0 := by
  rw [nesting]
  rintro key value rfl
  simp at h

theorem nesting_one (key : String) (value : Value) :
    nesting [(key, value)] = ((Shape.of key value).documents.map nesting).foldr max 0 + 1 := by
  rw [nesting, List.attach_map_val]

theorem nesting_one_le_iff {key : String} {value : Value} {levels : Nat} :
    nesting [(key, value)] ≤ levels + 1 ↔
      ∀ d ∈ (Shape.of key value).documents, nesting d ≤ levels := by
  rw [nesting_one, Nat.add_le_add_iff_right]
  constructor
  · intro h d hd
    exact (List.le_max_of_le (List.mem_map_of_mem hd) (Nat.le_refl _)).trans h
  · intro h
    exact List.max_le_of_forall_le _ levels (List.forall_mem_map.mpr h)

/-- The limit is met at a member when it is met inside: above the limit the member itself is
reported at most as one of no known shape. -/
theorem staysWithin_one_iff {multiKey : MultiKey} {levels depth : Nat} {m : String × Value} :
    StaysWithin multiKey (levels + 1) depth [m] ↔
      ∀ d ∈ (Shape.of m.1 m.2).documents, StaysWithin multiKey levels (depth + 1) d := by
  unfold StaysWithin
  rw [ofDocumentAt_singleton, ofMember_succ, events_ofMemberWith]
  cases Shape.of m.1 m.2 with
  | unknown => simp [Shape.documents, Event.reportsLimit]
  | _ => exact List.forall_mem_flatMap

/-- The levels of a document are those that the reader needs to come to the limit nowhere. -/
theorem nesting_le_iff (levels : Nat) (d : Document) : ∀ depth,
    nesting d ≤ levels ↔ StaysWithin .passthrough levels depth d := by
  induction levels, d using induction_levels with
  | empty levels =>
      intro depth
      rw [nesting_nil]
      exact iff_of_true (Nat.zero_le _) nofun
  | cut key value =>
      intro depth
      have hnesting : ¬ nesting [(key, value)] ≤ 0 := by
        rw [nesting_one]
        omega
      exact iff_of_false hnesting (not_staysWithin_zero .passthrough depth _)
  | member levels key value ih =>
      intro depth
      rw [nesting_one_le_iff, staysWithin_one_iff]
      exact forall_congr' fun d => forall_congr' fun hd => ih d hd (depth + 1)
  | several levels d hd _ =>
      intro depth
      rw [nesting_several hd]
      refine iff_of_true (Nat.zero_le _) fun x hx => ?_
      rw [ofDocumentAt_passthrough _ _ hd] at hx
      rw [List.mem_singleton.mp hx]
      exact Bool.false_ne_true

theorem readDocument_eq_of_nesting_le (levels : Nat) (d : Document) : ∀ levels', nesting d ≤ levels →
    nesting d ≤ levels' → readDocument .passthrough levels d = readDocument .passthrough levels' d := by
  induction levels, d using induction_levels with
  | empty levels => exact fun levels' _ _ => by rw [readDocument_nil, readDocument_nil]
  | cut key value =>
      intro levels' h _
      rw [nesting_one] at h
      omega
  | member levels key value ih =>
      intro levels' h h'
      obtain ⟨n, rfl⟩ : ∃ n, levels' = n + 1 := by
        rw [nesting_one] at h'
        exact ⟨levels' - 1, by omega⟩
      rw [nesting_one_le_iff] at h h'
      rw [readDocument_one_succ, readDocument_one_succ]
      exact ofShape_congr _ _ fun d hd => ih d hd n (h d hd) (h' d hd)
  | several levels d hd _ =>
      exact fun levels' _ _ => by rw [readDocument_passthrough _ hd, readDocument_passthrough _ hd]

/-- A limit only puts off what is read: the raw documents can be read with the levels that are
missing, no node above the limit depends on it, and it makes no difference from the last level of
the document on, which is where no member is met at the limit any more. -/
theorem ofDocument_passthrough_add (m n : Nat) (d : Document) :
    ofDocument ⟨.passthrough, m + n⟩ d =
        (ofDocument ⟨.passthrough, m⟩ d).mapRaw (ofDocument ⟨.passthrough, n⟩) ∧
      (ofDocument ⟨.passthrough, m + n⟩ d).upper m = (ofDocument ⟨.passthrough, m⟩ d).upper m ∧
      (nesting d ≤ m ↔ ∀ x ∈ (parse ⟨.passthrough, m⟩ d).events, ¬ x.reportsLimit) ∧
      (nesting d ≤ m → nesting d ≤ n →
        ofDocument ⟨.passthrough, m⟩ d = ofDocument ⟨.passthrough, n⟩ d) :=
  ⟨readDocument_add m n d, upper_readDocument_add m n d, nesting_le_iff m d 0,
    readDocument_eq_of_nesting_le m d n⟩

/-- Three levels of which the last lies in a condition on array elements, beside members that no
number of levels changes. -/
theorem ofDocument_passthrough_add_nested :
    let d : Document := [("$or", .array [
      .document [("a", .document [("$elemMatch", .document [("b", .document [("$neq", .null)])])])],
      .document [("c", .null), ("$and", .array [])], .document [("$where", .null)]])]
    nesting d ≤ 3 ∧ nesting d ≤ 100 ∧
      ofDocument ⟨.passthrough, 3⟩ d = ofDocument ⟨.passthrough, 100⟩ d := by
  intro d
  obtain ⟨_, _, hthree, hsame⟩ := ofDocument_passthrough_add 3 100 d
  obtain ⟨_, _, hhundred, _⟩ := ofDocument_passthrough_add 100 3 d
  have h3 : nesting d ≤ 3 := hthree.mpr (by decide)
  have h100 : nesting d ≤ 100 := hhundred.mpr (by decide)
  exact ⟨h3, h100, hsame h3 h100⟩

end Filter
end DocFilter

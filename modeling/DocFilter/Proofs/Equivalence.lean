import DocFilter.Proofs.Equality
import Mathlib.Data.List.Forall2
import Mathlib.Data.List.Perm.Subperm

/-! # Sameness as an equivalence

Two values, raw documents or filters are the same exactly when something that is computed of each
side alone is equal.  For a value this is its identity: its canonical bytes or, if it has none, the
value itself (`Value.equal_iff`).  For a raw document it is the row of identities at each key
(`Document.sameMembers_iff`).  For a node of a filter it is the label, which is the node without
what lies below it; the filters below have to be the same in turn (`Filter.same_iff`).

So the comparison of bytes and its fallback fit together, and sameness of filters is symmetric and
transitive by induction on the tree.  A raw document with each key once can be compared from one
side (`Document.sameMembers_eq_sameLookup`). -/

namespace DocFilter

/-! ### Values -/

/-- What equality sees of a value. -/
abbrev Identity := CanonicalBytes ⊕ Value

/-- The canonical bytes of a value, or the value where it has none. -/
def Value.identity (v : Value) : Identity :=
  match CanonicalBytes.encode v with
  | .ok bytes => .inl bytes
  | .error _ => .inr v

theorem Value.ne_of_encode {v w : Value} {x : CanonicalBytes} {e : EncodingError}
    (hv : CanonicalBytes.encode v = .ok x) (hw : CanonicalBytes.encode w = .error e) : v ≠ w := by
  rintro rfl
  rw [hv] at hw
  cases hw

/-- Where only one side has bytes the fallback finds a difference, as the identities do. -/
theorem Value.equal_iff (v w : Value) : v.equal w = true ↔ v.identity = w.identity := by
  unfold Value.equal Value.identity
  cases hv : CanonicalBytes.encode v with
  | ok x =>
      cases hw : CanonicalBytes.encode w with
      | ok y => simp
      | error e => simp [Value.ne_of_encode hv hw]
  | error e =>
      cases hw : CanonicalBytes.encode w with
      | ok y => simp [(Value.ne_of_encode hw hv).symm]
      | error _ => simp

theorem Value.equal_equivalence : Equivalence fun v w : Value => v.equal w = true where
  refl := Value.equal_self
  symm h := (Value.equal_iff _ _).mpr ((Value.equal_iff _ _).mp h).symm
  trans h h' := (Value.equal_iff _ _).mpr
    (((Value.equal_iff _ _).mp h).trans ((Value.equal_iff _ _).mp h'))

theorem allEqual_iff (vs ws : List Value) :
    allEqual vs ws = true ↔ vs.map Value.identity = ws.map Value.identity := by
  induction vs generalizing ws with
  | nil => cases ws <;> simp [allEqual]
  | cons v vs ih => cases ws <;> simp [allEqual, Value.equal_iff, ih]

theorem allEqual_iff_forall₂ {vs ws : List Value} :
    allEqual vs ws = true ↔ List.Forall₂ (fun v w => v.equal w = true) vs ws := by
  induction vs generalizing ws with
  | nil => cases ws <;> simp [allEqual]
  | cons v vs ih => cases ws <;> simp [allEqual, ih]

/-! ### Raw documents -/

namespace Document

/-- The identities of the values at a key, in order. -/
def identities (d : Document) (key : String) : List Identity :=
  (d.filter fun m => m.1 = key).map fun m => m.2.identity

theorem identities_cons (k : String) (v : Value) (rest : Document) (key : String) :
    identities ((k, v) :: rest) key =
      if k = key then v.identity :: identities rest key else identities rest key := by
  by_cases h : k = key <;> simp [identities, h]

theorem identities_ne_nil_iff {d : Document} {key : String} :
    d.identities key ≠ [] ↔ key ∈ d.keys := by
  simp [identities, keys, List.filter_eq_nil_iff]

theorem identities_of_extract_eq_none {key : String} {d : Document} (h : extract key d = none) :
    d.identities key = [] := by
  induction d with
  | nil => rfl
  | cons m rest ih =>
      obtain ⟨k, v⟩ := m
      rw [extract] at h
      split at h
      · cases h
      · next hk =>
        rw [identities_cons, if_neg hk]
        exact ih (Option.map_eq_none_iff.mp h)

/-- To take a member out and put it first changes no row. -/
theorem identities_of_extract_eq_some {key : String} {v : Value} {d others : Document}
    (h : extract key d = some (v, others)) : d.identities = identities ((key, v) :: others) := by
  induction d generalizing others with
  | nil => cases h
  | cons m rest ih =>
      obtain ⟨k, w⟩ := m
      rw [extract] at h
      split at h
      · next hk =>
        cases h
        rw [hk]
      · next hk =>
        obtain ⟨⟨_, others'⟩, hrest, heq⟩ := Option.map_eq_some_iff.mp h
        cases heq
        funext k'
        rw [identities_cons, ih hrest, identities_cons, identities_cons, identities_cons]
        by_cases hkey : key = k'
        · have hk' : ¬ k = k' := fun e => hk (e.trans hkey.symm)
          rw [if_neg hk', if_neg hk']
        · rw [if_neg hkey, if_neg hkey]

theorem identities_cons_eq_iff (key : String) (v w : Value) (d e : Document) :
    identities ((key, v) :: d) = identities ((key, w) :: e) ↔
      v.identity = w.identity ∧ d.identities = e.identities := by
  constructor
  · intro h
    have hkey := congrFun h key
    rw [identities_cons, identities_cons, if_pos rfl, if_pos rfl, List.cons.injEq] at hkey
    refine ⟨hkey.1, funext fun k => ?_⟩
    by_cases hk : key = k
    · rw [← hk]
      exact hkey.2
    · have := congrFun h k
      rwa [identities_cons, identities_cons, if_neg hk, if_neg hk] at this
  · rintro ⟨hv, hd⟩
    funext k
    rw [identities_cons, identities_cons, hv, hd]

theorem sameMembers_iff (d e : Document) :
    d.sameMembers e = true ↔ d.identities = e.identities := by
  induction d generalizing e with
  | nil =>
      rw [sameMembers, List.isEmpty_iff]
      constructor
      · rintro rfl
        rfl
      · intro h
        cases e with
        | nil => rfl
        | cons m rest =>
            have := congrFun h m.1
            rw [identities_cons, if_pos rfl] at this
            cases this
  | cons m rest ih =>
      obtain ⟨key, v⟩ := m
      rw [sameMembers]
      cases hx : extract key e with
      | none =>
          have hnone := identities_of_extract_eq_none hx
          refine iff_of_false Bool.false_ne_true fun h => ?_
          have := congrFun h key
          rw [hnone, identities_cons, if_pos rfl] at this
          cases this
      | some found =>
          obtain ⟨w, others⟩ := found
          rw [identities_of_extract_eq_some hx, identities_cons_eq_iff]
          simp only [Bool.and_eq_true, Value.equal_iff, ih]

/-! ### Documents with each key once -/

theorem identities_of_nodup {d : Document} (h : d.keys.Nodup) (key : String) :
    d.identities key = ((d.lookup key).map Value.identity).toList := by
  induction d with
  | nil => rfl
  | cons m rest ih =>
      obtain ⟨k, v⟩ := m
      have hcons : k ∉ keys rest ∧ (keys rest).Nodup := List.nodup_cons.mp h
      rw [identities_cons, List.lookup_cons]
      by_cases hk : k = key
      · have hrest : identities rest key = [] := by
          by_contra hne
          rw [hk] at hcons
          exact hcons.1 (identities_ne_nil_iff.mp hne)
        simp [hk, hrest]
      · have hk' : (key == k) = false := beq_eq_false_iff_ne.mpr (Ne.symm hk)
        rw [if_neg hk, ih hcons.2, hk']

theorem identities_of_mem {d : Document} (h : d.keys.Nodup) {m : String × Value} (hm : m ∈ d) :
    d.identities m.1 = [m.2.identity] := by
  have hmem : m.2.identity ∈ d.identities m.1 :=
    List.mem_map_of_mem (List.mem_filter.mpr ⟨hm, by simp⟩)
  rw [identities_of_nodup h, Option.mem_toList] at hmem
  rw [identities_of_nodup h, hmem]
  rfl

theorem lookup_eq_some_iff {d : Document} (h : d.keys.Nodup) (key : String) (v : Value) :
    (∃ w, d.lookup key = some w ∧ v.equal w = true) ↔ d.identities key = [v.identity] := by
  rw [identities_of_nodup h]
  cases d.lookup key with
  | none => simp
  | some w => simpa [Value.equal_iff] using eq_comm

/-- Where each key stands once, it is enough to look up the keys of one side: as many keys on the
other side leave no room for others. -/
theorem sameMembers_iff_lookup {d e : Document} (hd : d.keys.Nodup) (he : e.keys.Nodup) :
    d.sameMembers e = true ↔
      d.length = e.length ∧ ∀ m ∈ d, ∃ v, e.lookup m.1 = some v ∧ m.2.equal v = true := by
  have hlength : d.length = e.length ↔ d.keys.length = e.keys.length := by
    rw [keys, keys, List.length_map, List.length_map]
  simp only [sameMembers_iff, lookup_eq_some_iff he, hlength]
  constructor
  · intro h
    have hperm : d.keys.Perm e.keys := by
      refine (List.perm_ext_iff_of_nodup hd he).mpr fun key => ?_
      rw [← identities_ne_nil_iff, ← identities_ne_nil_iff, h]
    refine ⟨hperm.length_eq, fun m hm => ?_⟩
    rw [← h]
    exact identities_of_mem hd hm
  · rintro ⟨hlen, hvalues⟩
    have hsub : d.keys ⊆ e.keys := by
      intro key hkey
      obtain ⟨m, hm, rfl⟩ := List.mem_map.mp hkey
      rw [← identities_ne_nil_iff, hvalues m hm]
      exact List.cons_ne_nil _ _
    have hperm : d.keys.Perm e.keys := (hd.subperm hsub).perm_of_length_le (Nat.le_of_eq hlen.symm)
    funext key
    by_cases hkey : key ∈ d.keys
    · obtain ⟨m, hm, rfl⟩ := List.mem_map.mp hkey
      rw [hvalues m hm, identities_of_mem hd hm]
    · have hkey' : key ∉ e.keys := fun h => hkey (hperm.mem_iff.mpr h)
      rw [← identities_ne_nil_iff, not_not] at hkey hkey'
      rw [hkey, hkey']

theorem sameMembers_eq_sameLookup {d e : Document} (hd : d.keys.Nodup) (he : e.keys.Nodup) :
    d.sameMembers e = d.sameLookup e := by
  rw [Bool.eq_iff_iff, sameMembers_iff_lookup hd he]
  simp [sameLookup, Option.any_eq_true]

end Document

/-! ### Filters -/

namespace Filter

/-- A node without the filters below it, as equality sees it. -/
inductive Label where
  | nothing
  | typeIs (key : String) (type : ValueType)
  | compare (op : Comparison) (key : String) (value : Identity)
  | elemMatch (key : String)
  | group (connective : Connective)
  | not
  | matching (anchor : Anchor) (key pattern options : String)
  | raw (members : String → List Identity)
  | present (key : String) (expected : Bool)
  | isIn (key : String) (values : List Identity)
  | near (metric : Metric) (key : String) (center : Identity) (max min : Option Double)
  | within (key : String) (area : Identity)
  | intersects (key : String) (geometry : Identity)

def label : Filter → Label
  | nothing => .nothing
  | typeIs key type => .typeIs key type
  | compare op key value => .compare op key value.identity
  | elemMatch key _ => .elemMatch key
  | group connective _ => .group connective
  | not _ => .not
  | matching anchor key pattern options =>
    .matching anchor key pattern (anchor.normalOptions options)
  | raw document => .raw document.identities
  | present key expected => .present key expected
  | isIn key values => .isIn key (values.map Value.identity)
  | near metric key center max min =>
    .near metric key (Value.document (Geometry.point center).toDocument).identity max min
  | within key area => .within key (Value.document (Geometry.polygon area).toDocument).identity
  | intersects key geometry => .intersects key (Value.document geometry.toDocument).identity

theorem allSame_iff (fs gs : List Filter) :
    allSame fs gs = true ↔ List.Forall₂ (fun f g => f.same g = true) fs gs := by
  induction fs generalizing gs with
  | nil => cases gs <;> simp [allSame]
  | cons f fs ih => cases gs <;> simp [allSame, ih]

theorem same_iff (f g : Filter) :
    f.same g = true ↔
      f.label = g.label ∧ List.Forall₂ (fun f g => f.same g = true) f.children g.children := by
  cases f <;> cases g <;>
    simp [same, label, children, allSame_iff, allEqual_iff, Value.equal_iff,
      Document.sameMembers_iff, Geometry.sameDocument, and_assoc]

theorem same_symm {f : Filter} : ∀ {g : Filter}, f.same g = true → g.same f = true := by
  induction f using induction_children with
  | node f ih =>
      intro g h
      obtain ⟨hlabel, hchildren⟩ := (same_iff f g).mp h
      refine (same_iff g f).mpr ⟨hlabel.symm, ?_⟩
      have both := (List.forall₂_and_left _ _).mpr ⟨ih, hchildren⟩
      exact (both.imp fun _ _ hab => hab.1 hab.2).flip

theorem allSame_trans {fs gs hs : List Filter}
    (ih : ∀ f ∈ fs, ∀ {g h : Filter}, f.same g = true → g.same h = true → f.same h = true)
    (hfg : List.Forall₂ (fun f g => f.same g = true) fs gs)
    (hgh : List.Forall₂ (fun g h => g.same h = true) gs hs) :
    List.Forall₂ (fun f h => f.same h = true) fs hs := by
  induction hfg generalizing hs with
  | nil => exact hgh
  | @cons f g fs gs hfirst _ ihrest =>
      cases hgh with
      | cons hfirst' hrest' =>
          exact .cons (ih f List.mem_cons_self hfirst hfirst')
            (ihrest (fun f hf => ih f (List.mem_cons_of_mem _ hf)) hrest')

theorem same_trans {f : Filter} : ∀ {g h : Filter},
    f.same g = true → g.same h = true → f.same h = true := by
  induction f using induction_children with
  | node f ih =>
      intro g h hfg hgh
      obtain ⟨hlabel, hchildren⟩ := (same_iff f g).mp hfg
      obtain ⟨hlabel', hchildren'⟩ := (same_iff g h).mp hgh
      exact (same_iff f h).mpr ⟨hlabel.trans hlabel', allSame_trans ih hchildren hchildren'⟩

theorem same_equivalence : Equivalence fun f g : Filter => f.same g = true where
  refl := same_self
  symm := same_symm
  trans := same_trans

end Filter
end DocFilter

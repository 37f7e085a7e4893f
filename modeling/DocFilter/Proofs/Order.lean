import DocFilter.Proofs.Containers
import Mathlib.Data.Set.Card

/-! # The order of values

Values are ordered by what they are written as: those that cannot be written come first, all on one
rank, and the others in the lexicographic order of their bytes (`Value.compare_eq_compare_rank`).
So the order of values has the laws of that order, in which only equal sequences compare equal.

Rank also decides which values are equal, as long as they can be written.  Therefore ascending rows
of the same values are equal, one by one, in whatever order the values were given
(`Value.equal_of_stableSort`), and values have as many different bytes as there are classes of equal
ones among them (`Value.length_distinctEncodings`). -/

namespace DocFilter

/-! ### The order of bytes -/

theorem bytesLess_iff (as bs : List UInt8) :
    bytesLess as bs = true ↔ Ord.compare as bs = .lt := by
  induction as generalizing bs with
  | nil => cases bs <;> simp [bytesLess]
  | cons a as ih =>
      cases bs with
      | nil => simp [bytesLess]
      | cons b bs =>
          rw [bytesLess, List.compare_cons_cons, Ordering.then_eq_lt, Std.compare_eq_lt,
            Std.compare_eq_iff_eq]
          by_cases hab : a = b
          · simp [hab, ih]
          · simp [hab]

theorem CanonicalBytes.compare_eq (x y : CanonicalBytes) :
    x.compare y = Ord.compare x.bytes y.bytes := by
  have hless := bytesLess_iff x.bytes y.bytes
  have hgreater := bytesLess_iff y.bytes x.bytes
  rw [Std.OrientedOrd.eq_swap (a := y.bytes), Ordering.swap_eq_lt] at hgreater
  unfold compare less greater bytesGreater
  cases h : Ord.compare x.bytes y.bytes <;> simp_all

namespace Value

/-! ### Ranks -/

/-- What a value is ordered by. -/
def rank (v : Value) : Option (List UInt8) :=
  (CanonicalBytes.encode v).toOption.map (·.bytes)

theorem rank_eq_some_iff {v : Value} {x : CanonicalBytes} :
    v.rank = some x.bytes ↔ CanonicalBytes.encode v = .ok x := by
  obtain ⟨bytes⟩ := x
  unfold rank
  cases CanonicalBytes.encode v with
  | error e => simp [Except.toOption]
  | ok y =>
      obtain ⟨bytes'⟩ := y
      simp [Except.toOption]

theorem rank_eq_none_iff {v : Value} : v.rank = none ↔ ¬ v.Writable := by
  unfold rank Writable
  cases CanonicalBytes.encode v <;> simp [Except.toOption]

theorem compare_eq_compare_rank (v w : Value) : v.compare w = Ord.compare v.rank w.rank := by
  unfold compare rank
  cases CanonicalBytes.encode v <;> cases CanonicalBytes.encode w
  · rfl
  · rfl
  · rfl
  · exact CanonicalBytes.compare_eq _ _

instance : Std.OrientedCmp compare where
  eq_swap := by
    intro v w
    rw [compare_eq_compare_rank, compare_eq_compare_rank]
    exact Std.OrientedOrd.eq_swap

instance : Std.TransCmp compare where
  isLE_trans := by
    intro u v w
    rw [compare_eq_compare_rank, compare_eq_compare_rank, compare_eq_compare_rank]
    exact Std.TransOrd.isLE_trans

theorem compare_eq_iff_rank_eq {v w : Value} : v.compare w = .eq ↔ v.rank = w.rank := by
  rw [compare_eq_compare_rank, Std.compare_eq_iff_eq]

/-- Where a value can be written, equality is equality of rank. -/
theorem equal_iff_rank_eq {v w : Value} (hv : v.Writable) : v.equal w = true ↔ v.rank = w.rank := by
  obtain ⟨x, hx⟩ := hv
  have hequal : v.equal w = true ↔ v.SameEncoding w :=
    ⟨sameEncoding_of_equal, fun h => (equal_iff_of_sameEncoding h).mpr (.inl ⟨x, hx⟩)⟩
  rw [hequal, SameEncoding, hx, eq_comm, ← rank_eq_some_iff, rank_eq_some_iff.mpr hx, eq_comm]

/-! ### Ascending order -/

theorem compare_ne_gt_trans {u v w : Value} (huv : u.compare v ≠ .gt) (hvw : v.compare w ≠ .gt) :
    u.compare w ≠ .gt := by
  rw [ne_eq, ← Ordering.isLE_iff_ne_gt] at huv hvw ⊢
  exact Std.TransCmp.isLE_trans huv hvw

theorem compare_ne_gt_total (v w : Value) : v.compare w ≠ .gt ∨ w.compare v ≠ .gt := by
  have hswap : w.compare v = (v.compare w).swap := Std.OrientedCmp.eq_swap
  rw [hswap]
  cases v.compare w <;> decide

/-- What it is to sort a row of values by rank and to leave those of one rank as they stand: each
ascending part of the row is a part of the result. -/
structure StableSort (vs xs : List Value) : Prop where
  perm : xs.Perm vs
  ascending : xs.Pairwise fun v w => v.compare w ≠ .gt
  stable : ∀ us : List Value, us.Sublist vs → (us.Pairwise fun v w => v.compare w ≠ .gt) →
    us.Sublist xs

theorem stableSort_sort (vs : List Value) : StableSort vs (sort vs) := by
  have hprecedes {v w : Value} : v.precedes w = true ↔ v.compare w ≠ .gt := by simp [precedes]
  have htrans (u v w : Value) (huv : u.precedes v = true) (hvw : v.precedes w = true) :
      u.precedes w = true :=
    hprecedes.mpr (compare_ne_gt_trans (hprecedes.mp huv) (hprecedes.mp hvw))
  have htotal (v w : Value) : (v.precedes w || w.precedes v) = true := by
    rw [Bool.or_eq_true, hprecedes, hprecedes]
    exact compare_ne_gt_total v w
  refine ⟨List.mergeSort_perm vs precedes, ?_, fun us hsub hus => ?_⟩
  · exact (List.pairwise_mergeSort htrans htotal vs).imp hprecedes.mp
  · exact List.sublist_mergeSort htrans htotal (hus.imp hprecedes.mpr) hsub

theorem pairwise_rank {xs : List Value} (h : xs.Pairwise fun v w => v.compare w ≠ .gt) :
    (xs.map rank).Pairwise fun a b => (Ord.compare a b).isLE = true := by
  refine List.pairwise_map.mpr (h.imp fun {v w} hvw => ?_)
  rwa [← compare_eq_compare_rank, Ordering.isLE_iff_ne_gt]

/-- The ranks of an ascending row are those of any other ascending row of the same values. -/
theorem map_rank_eq_of_perm {xs ys : List Value} (hperm : xs.Perm ys)
    (hxs : xs.Pairwise fun v w => v.compare w ≠ .gt)
    (hys : ys.Pairwise fun v w => v.compare w ≠ .gt) : xs.map rank = ys.map rank := by
  refine (hperm.map rank).eq_of_pairwise ?_ (pairwise_rank hxs) (pairwise_rank hys)
  intro a b _ _ hab hba
  exact Std.compare_eq_iff_eq.mp (Std.OrientedCmp.isLE_antisymm hab hba)

theorem equal_of_stableSort {vs ws xs ys : List Value} (hvs : ∀ v ∈ vs, v.Writable)
    (hperm : vs.Perm ws) (hxs : StableSort vs xs) (hys : StableSort ws ys) :
    List.Forall₂ (fun v w => v.equal w = true) xs ys := by
  have hranks : xs.map rank = ys.map rank :=
    map_rank_eq_of_perm ((hxs.perm.trans hperm).trans hys.perm.symm) hxs.ascending hys.ascending
  have hall : List.Forall₂ (fun v w => v.rank = w.rank) xs ys := by
    rw [← List.forall₂_eq_eq_eq, List.forall₂_map_left_iff, List.forall₂_map_right_iff] at hranks
    exact hranks
  refine forall₂_imp_of_mem (fun v hv {w} hvw => ?_) hall
  exact (equal_iff_rank_eq (hvs v (hxs.perm.mem_iff.mp hv))).mpr hvw

/-! ### Classes of equal values -/

theorem nodup_eraseDups (xs : List CanonicalBytes) : xs.eraseDups.Nodup := by
  match xs with
  | [] => exact List.nodup_nil
  | x :: xs =>
      rw [List.eraseDups_cons, List.nodup_cons]
      refine ⟨fun h => ?_, nodup_eraseDups _⟩
      simp [List.mem_eraseDups] at h
termination_by xs.length
decreasing_by exact Nat.lt_succ_of_le (List.length_filter_le _ _)

theorem mem_distinctEncodings {vs : List Value} {x : CanonicalBytes} :
    x ∈ distinctEncodings vs ↔ ∃ v ∈ vs, CanonicalBytes.encode v = .ok x := by
  rw [distinctEncodings, List.mem_eraseDups, List.mem_filterMap]
  refine exists_congr fun v => and_congr_right fun _ => ?_
  cases CanonicalBytes.encode v <;> simp [Except.toOption]

/-- The classes of equal values among the given ones. -/
def classes (vs : List Value) : Set (Set Value) :=
  {c | ∃ v ∈ vs, c = {w | w ∈ vs ∧ v.equal w = true}}

/-- The given values that are written with these bytes. -/
def writtenAs (vs : List Value) (x : CanonicalBytes) : Set Value :=
  {w | w ∈ vs ∧ CanonicalBytes.encode w = .ok x}

theorem class_eq_writtenAs {v : Value} {x : CanonicalBytes} (vs : List Value)
    (hx : CanonicalBytes.encode v = .ok x) :
    {w | w ∈ vs ∧ v.equal w = true} = writtenAs vs x := by
  ext w
  refine and_congr_right fun _ => ?_
  rw [equal_iff_rank_eq ⟨x, hx⟩, rank_eq_some_iff.mpr hx, eq_comm, rank_eq_some_iff]

theorem classes_eq_image {vs : List Value} (hvs : ∀ v ∈ vs, v.Writable) :
    classes vs = writtenAs vs '' (distinctEncodings vs).toFinset := by
  ext c
  rw [Set.mem_image]
  simp only [Finset.mem_coe, List.mem_toFinset, mem_distinctEncodings]
  constructor
  · rintro ⟨v, hv, rfl⟩
    obtain ⟨x, hx⟩ := hvs v hv
    exact ⟨x, ⟨v, hv, hx⟩, (class_eq_writtenAs vs hx).symm⟩
  · rintro ⟨x, ⟨v, hv, hx⟩, rfl⟩
    exact ⟨v, hv, (class_eq_writtenAs vs hx).symm⟩

/-- Different bytes have different values, as each bytes here has one. -/
theorem injOn_writtenAs (vs : List Value) :
    Set.InjOn (writtenAs vs) (distinctEncodings vs).toFinset := by
  intro x hx y _ hxy
  rw [Finset.mem_coe, List.mem_toFinset, mem_distinctEncodings] at hx
  obtain ⟨v, hv, hx⟩ := hx
  have hmem : v ∈ writtenAs vs y := hxy ▸ ⟨hv, hx⟩
  exact Except.ok.inj (hx.symm.trans hmem.2)

theorem length_distinctEncodings {vs : List Value} (hvs : ∀ v ∈ vs, v.Writable) :
    (distinctEncodings vs).length = (classes vs).ncard := by
  have hnodup : (distinctEncodings vs).Nodup := nodup_eraseDups _
  rw [classes_eq_image hvs, (injOn_writtenAs vs).ncard_image, Set.ncard_coe_finset,
    List.toFinset_card_of_nodup hnodup]

/-- Comparison is a total preorder with the values that cannot be written as its least class, and on
the others it compares equal what is equal.  Stable sorting by it gives equal rows of the same such
values, and these have as many different bytes as classes. -/
theorem compare_preorder_and_sort :
    (∀ v w : Value, w.compare v = (v.compare w).swap) ∧
    (∀ u v w : Value, u.compare v ≠ .gt → v.compare w ≠ .gt → u.compare w ≠ .gt) ∧
    (∀ v w : Value, v.compare w ≠ .gt ∨ w.compare v ≠ .gt) ∧
    (∀ v w : Value, ¬ v.Writable → ¬ w.Writable → v.compare w = .eq) ∧
    (∀ v w : Value, ¬ v.Writable → w.Writable → v.compare w = .lt) ∧
    (∀ v w : Value, v.Writable → w.Writable → (v.compare w = .eq ↔ v.equal w = true)) ∧
    (∀ vs : List Value, StableSort vs (sort vs)) ∧
    (∀ vs ws xs ys : List Value, (∀ v ∈ vs, v.Writable) → vs.Perm ws → StableSort vs xs →
      StableSort ws ys → List.Forall₂ (fun v w => v.equal w = true) xs ys) ∧
    (∀ vs : List Value, (∀ v ∈ vs, v.Writable) →
      (distinctEncodings vs).length = (classes vs).ncard) := by
  refine ⟨fun v w => Std.OrientedCmp.eq_swap, fun u v w => compare_ne_gt_trans,
    compare_ne_gt_total, ?_, ?_, ?_, stableSort_sort, ?_, fun vs => length_distinctEncodings⟩
  · intro v w hv hw
    rw [compare_eq_iff_rank_eq, rank_eq_none_iff.mpr hv, rank_eq_none_iff.mpr hw]
  · intro v w hv hw
    obtain ⟨x, hx⟩ := hw
    rw [compare_eq_compare_rank, rank_eq_none_iff.mpr hv, rank_eq_some_iff.mpr hx]
    rfl
  · intro v w hv _
    rw [compare_eq_iff_rank_eq, equal_iff_rank_eq hv]
  · intro vs ws xs ys hvs hperm hxs hys
    exact equal_of_stableSort hvs hperm hxs hys

/-- A key and a pattern that cannot be written, and among the values that can be, options in another
order. -/
theorem compare_preorder_and_sort_mixed :
    let bad : Value := .document [("\x00", .null)]
    let worse : Value := .array [.regex "\x00" "i"]
    let vs : List Value := [.regex "p" "xi", .int32 256, .array [.null], .int32 1, .regex "p" "ix"]
    ¬ bad.Writable ∧ ¬ worse.Writable ∧ (∀ v ∈ vs, v.Writable) ∧
      worse.compare bad = .eq ∧ bad.compare (.array [.null]) = .lt ∧
      bad.compare (.int32 1) ≠ .gt ∧
      (Value.regex "p" "xi").equal (.regex "p" "ix") = true ∧
      StableSort vs (sort vs) ∧ StableSort vs.reverse (sort vs.reverse) ∧
      List.Forall₂ (fun v w => v.equal w = true) (sort vs) (sort vs.reverse) ∧
      (classes vs).ncard = 4 := by
  intro bad worse vs
  have hbad : ¬ bad.Writable := by decide +kernel
  have hworse : ¬ worse.Writable := by decide +kernel
  have hvs : ∀ v ∈ vs, v.Writable := by decide +kernel
  obtain ⟨_, htrans, _, hleast, hbelow, hequal, hsort, hunique, hclasses⟩ :=
    compare_preorder_and_sort
  refine ⟨hbad, hworse, hvs, hleast worse bad hworse hbad, ?_, ?_, ?_, hsort vs, hsort vs.reverse,
    ?_, ?_⟩
  · exact hbelow bad (.array [.null]) hbad (hvs _ (by simp [vs]))
  · exact htrans bad (.array [.null]) (.int32 1) (by decide +kernel) (by decide +kernel)
  · exact (hequal _ _ (hvs _ (by simp [vs])) (hvs _ (by simp [vs]))).mp (by decide +kernel)
  · exact hunique vs vs.reverse _ _ hvs (List.reverse_perm vs).symm (hsort vs) (hsort vs.reverse)
  · have hlength : (distinctEncodings vs).length = 4 := by decide +kernel
    rw [← hclasses vs hvs, hlength]

end Value
end DocFilter

import DocFilter.Filter.Equality
import Mathlib.Data.Char
import Mathlib.Data.List.Sort

/-! # Options of patterns

The options that a pattern is written with are the characters of a set, each once and in ascending
order: those that are given, and `m` for a pattern that is tied to a line.  `Anchor.Writes` says so
of a text, which is then determined by the set (`Anchor.writes_iff`).

Equality of pattern filters compares the options as they are written, and so it is equality of the
compiled documents (`Filter.same_matching_iff`). -/

namespace DocFilter

/-! ### Rows in ascending order -/

theorem mem_insertOption {c d : Char} {cs : List Char} : d ∈ insertOption c cs ↔ d = c ∨ d ∈ cs := by
  induction cs with
  | nil => simp [insertOption]
  | cons e cs ih =>
      unfold insertOption
      split
      · rw [List.mem_cons]
      · split
        · next heq =>
          subst heq
          simp
        · rw [List.mem_cons, ih, List.mem_cons]
          exact or_left_comm

theorem pairwise_insertOption (c : Char) {cs : List Char} (h : cs.Pairwise (· < ·)) :
    (insertOption c cs).Pairwise (· < ·) := by
  induction cs with
  | nil => exact List.pairwise_singleton _ c
  | cons e cs ih =>
      obtain ⟨hhead, htail⟩ := List.pairwise_cons.mp h
      unfold insertOption
      split
      · next hlt =>
        refine List.pairwise_cons.mpr ⟨fun d hd => ?_, h⟩
        rcases List.mem_cons.mp hd with rfl | hd
        · exact hlt
        · exact hlt.trans (hhead d hd)
      · next hle =>
        split
        · exact h
        · next hne =>
          have hgt : e < c := lt_of_le_of_ne (not_lt.mp hle) (Ne.symm hne)
          refine List.pairwise_cons.mpr ⟨fun d hd => ?_, ih htail⟩
          rcases mem_insertOption.mp hd with rfl | hd
          · exact hgt
          · exact hhead d hd

theorem mem_ascending {d : Char} {cs : List Char} : d ∈ ascending cs ↔ d ∈ cs := by
  unfold ascending
  induction cs with
  | nil => exact Iff.rfl
  | cons c cs ih => rw [List.foldr_cons, mem_insertOption, ih, List.mem_cons]

theorem pairwise_ascending (cs : List Char) : (ascending cs).Pairwise (· < ·) := by
  unfold ascending
  induction cs with
  | nil => exact .nil
  | cons c cs ih => exact pairwise_insertOption c ih

/-- A row in ascending order is determined by what is in it. -/
theorem eq_ascending_iff {cs ds : List Char} :
    cs = ascending ds ↔ cs.Pairwise (· < ·) ∧ ∀ c, c ∈ cs ↔ c ∈ ds := by
  constructor
  · rintro rfl
    exact ⟨pairwise_ascending ds, fun c => mem_ascending⟩
  · rintro ⟨hcs, hmem⟩
    refine hcs.sortedLT.eq_of_mem_iff (pairwise_ascending ds).sortedLT fun c => ?_
    rw [hmem, mem_ascending]

/-! ### Options -/

namespace Anchor

/-- Whether a pattern with the given options is matched with an option. -/
def HasOption (anchor : Anchor) (options : String) (c : Char) : Prop :=
  c ∈ options.toList ∨ (anchor ≠ .anywhere ∧ c = 'm')

/-- Whether a text names the options that a pattern is matched with, by ascending code points and
each once. -/
structure Writes (anchor : Anchor) (options written : String) : Prop where
  ascending : written.toList.Pairwise fun c d => c.toNat < d.toNat
  mem_iff : ∀ c, c ∈ written.toList ↔ anchor.HasOption options c

theorem mem_given_iff (anchor : Anchor) (options : String) (c : Char) :
    c ∈ options.toList ++ (if anchor.isTied then ['m'] else []) ↔ anchor.HasOption options c := by
  unfold HasOption
  cases anchor <;> simp [isTied]

/-- There is one text for each set of options. -/
theorem writes_iff {anchor : Anchor} {options written : String} :
    anchor.Writes options written ↔ written = anchor.normalOptions options := by
  have hlt : ∀ c d : Char, c.toNat < d.toNat ↔ c < d := fun c d => by
    rw [Char.lt_def, UInt32.lt_iff_toNat_lt, Char.toNat_val, Char.toNat_val]
  have hrow : written = anchor.normalOptions options ↔ written.toList =
      DocFilter.ascending (options.toList ++ if anchor.isTied then ['m'] else []) := by
    rw [normalOptions, ← String.toList_inj, String.toList_ofList]
  simp only [hrow, eq_ascending_iff, mem_given_iff]
  constructor
  · rintro ⟨hascending, hmem⟩
    exact ⟨hascending.imp (hlt _ _).mp, hmem⟩
  · rintro ⟨hascending, hmem⟩
    exact ⟨hascending.imp (hlt _ _).mpr, hmem⟩

theorem writes_normalOptions (anchor : Anchor) (options : String) :
    anchor.Writes options (anchor.normalOptions options) :=
  writes_iff.mpr rfl

/-- Options are written alike exactly when they are the same set. -/
theorem normalOptions_eq_iff (anchor : Anchor) (options options' : String) :
    anchor.normalOptions options = anchor.normalOptions options' ↔
      ∀ c, anchor.HasOption options c ↔ anchor.HasOption options' c := by
  have hwrites := anchor.writes_normalOptions options
  rw [← writes_iff]
  constructor
  · intro h c
    rw [← hwrites.mem_iff, h.mem_iff]
  · intro h
    refine ⟨hwrites.ascending, fun c => ?_⟩
    rw [hwrites.mem_iff, h]

/-- What is written is written as it is, also where it is not tied any more. -/
theorem Writes.normalOptions_eq {anchor again : Anchor} {options written : String}
    (h : anchor.Writes options written) (hagain : again ≠ .anywhere → anchor ≠ .anywhere) :
    again.normalOptions written = written := by
  refine (writes_iff.mp ⟨h.ascending, fun c => ?_⟩).symm
  constructor
  · exact .inl
  · rintro (hc | ⟨htied, hc⟩)
    · exact hc
    · exact (h.mem_iff c).mpr (.inr ⟨hagain htied, hc⟩)

theorem apply_inj (anchor : Anchor) {pattern pattern' : String} :
    anchor.apply pattern = anchor.apply pattern' ↔ pattern = pattern' := by
  cases anchor with
  | anywhere => exact Iff.rfl
  | lineStart => exact String.append_right_inj "^"
  | lineEnd => exact String.append_left_inj "$"

end Anchor

namespace Filter

/-- Filters with patterns that are tied alike are the same exactly when they are compiled to one
document.  Its options name the set of those that are given, with `m` for a pattern that is tied to
a line; they depend on this set alone, and to write them again changes nothing. -/
theorem same_matching_iff (anchor : Anchor)
    (key key' pattern pattern' options options' : String) :
    ((matching anchor key pattern options).same (matching anchor key' pattern' options') = true ↔
        (matching anchor key pattern options).toDocument =
          (matching anchor key' pattern' options').toDocument) ∧
      (∃ written, (matching anchor key pattern options).toDocument =
          [(key, .regex (anchor.apply pattern) written)] ∧
        anchor.Writes options written ∧ anchor.normalOptions written = written ∧
        Anchor.anywhere.normalOptions written = written) ∧
      (anchor.normalOptions options = anchor.normalOptions options' ↔
        ∀ c, anchor.HasOption options c ↔ anchor.HasOption options' c) := by
  have hwrites := anchor.writes_normalOptions options
  refine ⟨?_, ⟨anchor.normalOptions options, by rw [toDocument_eq, compile], hwrites,
    hwrites.normalOptions_eq id, hwrites.normalOptions_eq fun h => absurd rfl h⟩,
    anchor.normalOptions_eq_iff options options'⟩
  rw [same, toDocument_eq, toDocument_eq, compile, compile]
  simp [anchor.apply_inj, and_assoc]

end Filter
end DocFilter

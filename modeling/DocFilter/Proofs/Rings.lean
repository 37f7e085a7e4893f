import DocFilter.Error
import Mathlib.Data.Set.List

/-! # Rings of polygons

A polygon is made from rows of points, its exterior first.  It is refused because of the first row
that is not a ring, with the position of that row among all (`Polygon.ringsFrom_eq_error_iff`), and
otherwise keeps the rows as they are (`Polygon.ringsFrom_eq_ok_iff`).  The exterior is checked apart
from the holes, but it is the row at position 0 of one pass (`Polygon.ringsFrom_zero`). -/

namespace DocFilter

/-- At least four points, of which the last is at the place of the first. -/
structure IsRing (points : List Point) : Prop where
  four_le : 4 ≤ points.length
  closed : ∃ first ∈ points.head?, ∃ last ∈ points.getLast?, first.samePlace last = true

/-- What is wrong with a row of points that is not a ring: its length comes first. -/
def ringFault (index : Nat) (points : List Point) : GeometryFault :=
  if points.length < 4 then .ringTooShort index points.length else .ringOpen index

theorem message_ringFault (index : Nat) (points : List Point) :
    (Error.geometry (ringFault index points)).message =
      "invalid geometry: polygon ring " ++ toString index ++
        if points.length < 4 then
          " has " ++ toString points.length ++ " positions, at least 4 are required"
        else " is not closed" := by
  unfold ringFault
  split
  · change "invalid geometry: " ++ ("polygon ring " ++ toString index ++ " has " ++
      toString points.length ++ " positions, at least 4 are required") = _
    simp only [← String.append_assoc, String.reduceAppend]
  · change "invalid geometry: " ++ ("polygon ring " ++ toString index ++ " is not closed") = _
    simp only [← String.append_assoc, String.reduceAppend]

theorem isRing_iff {points : List Point} :
    IsRing points ↔ 4 ≤ points.length ∧ isClosed points = true := by
  constructor
  · rintro ⟨hlength, first, hfirst, last, hlast, hsame⟩
    rw [Option.mem_def] at hfirst hlast
    exact ⟨hlength, by rw [isClosed, hfirst, hlast]; exact hsame⟩
  · rintro ⟨hlength, hclosed⟩
    unfold isClosed at hclosed
    split at hclosed
    · next first last hfirst hlast => exact ⟨hlength, first, hfirst, last, hlast, hclosed⟩
    · next hfirst _ =>
      rw [List.head?_eq_none_iff.mp hfirst] at hlength
      cases hlength
    · cases hclosed

namespace Ring

theorem isRing_points (r : Ring) : IsRing r.points := isRing_iff.mpr ⟨r.four_le, r.closed⟩

theorem of_points (index : Nat) (r : Ring) : Ring.of index r.points = .ok r := by
  rw [Ring.of, dif_pos r.four_le, dif_pos r.closed]

theorem of_eq_error_iff {index : Nat} {points : List Point} {fault : GeometryFault} :
    Ring.of index points = .error fault ↔ ¬ IsRing points ∧ ringFault index points = fault := by
  rw [isRing_iff, Ring.of, ringFault]
  split
  · next hlength =>
    rw [if_neg (by omega)]
    split <;> simp_all
  · next hlength =>
    rw [if_pos (by omega)]
    simp [hlength]

end Ring

/-! ### Rows of rings -/

theorem mem_range_points_iff {points : List Point} :
    points ∈ Set.range Ring.points ↔ IsRing points := by
  constructor
  · rintro ⟨r, rfl⟩
    exact r.isRing_points
  · intro h
    obtain ⟨hlength, hclosed⟩ := isRing_iff.mp h
    exact ⟨⟨points, hlength, hclosed⟩, rfl⟩

theorem exists_map_points_iff {rows : List (List Point)} :
    (∃ rings : List Ring, rings.map Ring.points = rows) ↔ ∀ row ∈ rows, IsRing row := by
  simp only [← mem_range_points_iff]
  rw [← Set.mem_range, Set.range_list_map, Set.mem_ofPred_eq]

/-- Rows begin with rings, and what stands behind them begins with something else. -/
theorem exists_rings_append (rows : List (List Point)) :
    ∃ (rings : List Ring) (rest : List (List Point)), rings.map Ring.points ++ rest = rows ∧
      ∀ points ∈ rest.head?, ¬ IsRing points := by
  induction rows with
  | nil => exact ⟨[], [], rfl, nofun⟩
  | cons points rows ih =>
      by_cases h : IsRing points
      · obtain ⟨r, rfl⟩ := mem_range_points_iff.mpr h
        obtain ⟨rings, rest, rfl, hrest⟩ := ih
        exact ⟨r :: rings, rest, rfl, hrest⟩
      · refine ⟨[], points :: rows, rfl, fun row hrow => ?_⟩
        rw [List.head?_cons, Option.mem_some_iff] at hrow
        exact hrow ▸ h

namespace Polygon

theorem ringsFrom_cons_of_not_isRing (index : Nat) {points : List Point} (h : ¬ IsRing points)
    (rest : List (List Point)) :
    ringsFrom index (points :: rest) = .error (ringFault index points) := by
  rw [ringsFrom, Ring.of_eq_error_iff.mpr ⟨h, rfl⟩]
  rfl

/-- Rings in front are kept, and what is behind them has its position counted from there. -/
theorem ringsFrom_append (index : Nat) (rings : List Ring) (rest : List (List Point)) :
    ringsFrom index (rings.map Ring.points ++ rest) =
      (rings ++ ·) <$> ringsFrom (index + rings.length) rest := by
  induction rings generalizing index with
  | nil => cases h : ringsFrom index rest <;> simp [h, Functor.map, Except.map]
  | cons r rings ih =>
      rw [List.map_cons, List.cons_append, ringsFrom, Ring.of_points, ih, List.length_cons,
        Nat.add_right_comm index 1, Nat.add_assoc index]
      cases ringsFrom (index + (rings.length + 1)) rest <;> rfl

/-- Rows that are all rings are kept as they are. -/
theorem ringsFrom_eq_ok_iff {index : Nat} {rows : List (List Point)} {rings : List Ring} :
    ringsFrom index rows = .ok rings ↔ rings.map Ring.points = rows := by
  constructor
  · intro h
    obtain ⟨before, rest, rfl, hrest⟩ := exists_rings_append rows
    rw [ringsFrom_append] at h
    cases rest with
    | nil =>
        cases h
        simp
    | cons points after =>
        rw [ringsFrom_cons_of_not_isRing _ (hrest points rfl)] at h
        cases h
  · rintro rfl
    have := ringsFrom_append index rings []
    rw [List.append_nil] at this
    rw [this, ringsFrom]
    simp [Functor.map, Except.map]

/-- The first row that is not a ring is what is wrong. -/
theorem ringsFrom_eq_error_iff {index : Nat} {rows : List (List Point)} {fault : GeometryFault} :
    ringsFrom index rows = .error fault ↔
      ∃ before points after, rows = before ++ points :: after ∧ (∀ row ∈ before, IsRing row) ∧
        ¬ IsRing points ∧ fault = ringFault (index + before.length) points := by
  constructor
  · intro h
    obtain ⟨rings, rest, rfl, hrest⟩ := exists_rings_append rows
    rw [ringsFrom_append] at h
    cases rest with
    | nil => cases h
    | cons points after =>
        rw [ringsFrom_cons_of_not_isRing _ (hrest points rfl)] at h
        cases h
        refine ⟨rings.map Ring.points, points, after, rfl, exists_map_points_iff.mp ⟨rings, rfl⟩,
          hrest points rfl, ?_⟩
        rw [List.length_map]
  · rintro ⟨before, points, after, rfl, hbefore, hpoints, rfl⟩
    obtain ⟨rings, rfl⟩ := exists_map_points_iff.mpr hbefore
    rw [ringsFrom_append, ringsFrom_cons_of_not_isRing _ hpoints, List.length_map]
    rfl

/-- The exterior is the row at position 0. -/
theorem ringsFrom_zero (exterior : List Point) (holes : List (List Point)) :
    ringsFrom 0 (exterior :: holes) =
      (fun p => p.exterior :: p.holes) <$> Polygon.of exterior holes := by
  rw [ringsFrom, Polygon.of]
  cases Ring.of 0 exterior with
  | error fault => rfl
  | ok r => cases ringsFrom 1 holes <;> rfl

theorem of_eq_ok_iff {exterior : List Point} {holes : List (List Point)} {p : Polygon} :
    Polygon.of exterior holes = .ok p ↔ p.rings = exterior :: holes := by
  rw [rings, ← @ringsFrom_eq_ok_iff 0, ringsFrom_zero]
  obtain ⟨r, hs⟩ := p
  cases Polygon.of exterior holes with
  | error fault => simp [Functor.map, Except.map]
  | ok q => cases q; simp [Functor.map, Except.map]

theorem of_eq_error_iff {exterior : List Point} {holes : List (List Point)}
    {fault : GeometryFault} :
    Polygon.of exterior holes = .error fault ↔ ringsFrom 0 (exterior :: holes) = .error fault := by
  rw [ringsFrom_zero]
  cases Polygon.of exterior holes <;> simp [Functor.map, Except.map]

theorem exists_of_eq_ok_iff {exterior : List Point} {holes : List (List Point)} :
    (∃ p, Polygon.of exterior holes = .ok p) ↔ ∀ row ∈ exterior :: holes, IsRing row := by
  rw [← exists_map_points_iff]
  simp only [of_eq_ok_iff]
  constructor
  · rintro ⟨p, hp⟩
    exact ⟨p.exterior :: p.holes, hp⟩
  · rintro ⟨rings, hrings⟩
    obtain ⟨r, rest, rfl⟩ : ∃ r rest, rings = r :: rest := by
      cases rings with
      | nil => cases hrings
      | cons r rest => exact ⟨r, rest, rfl⟩
    exact ⟨⟨r, rest⟩, hrings⟩

/-- A polygon is accepted exactly when all its rows are rings, and then it is rendered with all of
them.  Otherwise the first row that is not a ring is blamed, for its length if that is too small. -/
theorem of_accepts_and_blames (exterior : List Point) (holes : List (List Point)) :
    ((∃ p, Polygon.of exterior holes = .ok p) ↔ ∀ row ∈ exterior :: holes, IsRing row) ∧
    (∀ p, Polygon.of exterior holes = .ok p →
      p.exterior.points = exterior ∧ p.holes.map Ring.points = holes ∧
        (Geometry.polygon p).toDocument = [("type", .string "Polygon"),
          ("coordinates", .array ((exterior :: holes).map fun row =>
            .array (row.map fun q => .array [.double q.longitude, .double q.latitude])))]) ∧
    (∀ fault, Polygon.of exterior holes = .error fault ↔
      ∃ before row after, exterior :: holes = before ++ row :: after ∧
        (∀ ring ∈ before, IsRing ring) ∧ ¬ IsRing row ∧ fault = ringFault before.length row ∧
        (Error.geometry fault).message =
          "invalid geometry: polygon ring " ++ toString before.length ++
            if row.length < 4 then
              " has " ++ toString row.length ++ " positions, at least 4 are required"
            else " is not closed") := by
  refine ⟨exists_of_eq_ok_iff, fun p hp => ?_, fun fault => ?_⟩
  · have hrings := of_eq_ok_iff.mp hp
    obtain ⟨hexterior, hholes⟩ := List.cons.inj hrings
    refine ⟨hexterior, hholes, ?_⟩
    rw [Geometry.toDocument, Geometry.coordinates, hrings]
    rfl
  · rw [of_eq_error_iff, ringsFrom_eq_error_iff]
    simp only [Nat.zero_add]
    constructor
    · rintro ⟨before, row, after, hrows, hbefore, hrow, rfl⟩
      exact ⟨before, row, after, hrows, hbefore, hrow, rfl, message_ringFault _ row⟩
    · rintro ⟨before, row, after, hrows, hbefore, hrow, hfault, _⟩
      exact ⟨before, row, after, hrows, hbefore, hrow, hfault⟩

/-- A ring whose end is at the place of its start by another zero, and behind it a row that is too
short and open, and one that is open. -/
theorem of_accepts_and_blames_first :
    let p (x y : UInt64) (hx : (Double.mk x).magnitude ≤ longitudeBound)
      (hy : (Double.mk y).magnitude ≤ latitudeBound) : Point := ⟨⟨x⟩, ⟨y⟩, hx, hy⟩
    let a := p 0 0x8000000000000000 (by decide) (by decide)
    let b := p 0x3ff0000000000000 0 (by decide) (by decide)
    let c := p 0x8000000000000000 0 (by decide) (by decide)
    let ring := [a, b, b, c]
    (∃ q, Polygon.of ring [ring] = .ok q ∧ q.rings = [ring, ring]) ∧
      Polygon.of ring [ring, [a, b], [a, b, b, b]] = .error (.ringTooShort 2 2) ∧
      Polygon.of ring [[a, b, b, b], [a, b]] = .error (.ringOpen 1) := by
  intro p a b c ring
  have hring : IsRing ring := isRing_iff.mpr (by decide)
  have hshort : ¬ IsRing [a, b] := fun h => absurd h.four_le (by decide)
  have hopen : ¬ IsRing [a, b, b, b] := fun h => absurd (isRing_iff.mp h).2 (by decide)
  have hall : ∀ row ∈ [ring, ring], IsRing row := by simpa using hring
  obtain ⟨haccepts, hkeeps, -⟩ := of_accepts_and_blames ring [ring]
  obtain ⟨q, hq⟩ := haccepts.mpr hall
  obtain ⟨hexterior, hholes, _⟩ := hkeeps q hq
  refine ⟨⟨q, hq, by rw [rings, List.map_cons, hexterior, hholes]⟩, ?_, ?_⟩
  · exact ((of_accepts_and_blames ring [ring, [a, b], [a, b, b, b]]).2.2 _).mpr
      ⟨[ring, ring], [a, b], [[a, b, b, b]], rfl, hall, hshort, rfl, by decide +kernel⟩
  · exact ((of_accepts_and_blames ring [[a, b, b, b], [a, b]]).2.2 _).mpr
      ⟨[ring], [a, b, b, b], [[a, b]], rfl, by simpa using hring, hopen, rfl, by decide +kernel⟩

end Polygon
end DocFilter

import DocFilter.Proofs.Equality
import DocFilter.Proofs.Writability

/-! # Two equalities of geometries

Filters compare geometries by the bytes of their documents.  These have nothing in them whose end is
told only by a length that may not fit: numbers have a fixed width, the texts in them are short, and
the end of a container is marked (`Value.IsElementary`).  So the bytes tell the document, however
many points there are, and the document tells the geometry (`Geometry.sameDocument_iff`).

As shapes geometries are compared by the numbers that their coordinates are.  No coordinate is a
NaN, so these are the bits up to the sign of zero (`Double.sameNumber_iff`): two geometries have the
same shape when they are the same without the signs of zeros (`Geometry.sameShape_iff`). -/

namespace DocFilter

/-! ### Values of any size that their bytes tell -/

namespace Value

/-- A number, a short string, or a container with keys that can be written. -/
inductive IsElementary : Value → Prop
  | double (x : Double) : IsElementary (double x)
  | string {s : String} : (sized s).length < Nat.pow 2 31 → IsElementary (string s)
  | array (vs : List Value) : IsElementary (array vs)
  | document {d : Document} : (∀ key ∈ d.keys, hasNul key = false) → IsElementary (document d)

theorem writable_of_isElementary {v : Value} (h : v.EveryPart IsElementary) : v.Writable := by
  rw [writable_iff_texts]
  intro s hs
  obtain ⟨w, hw, hown⟩ := mem_terminatedTexts_iff.mp hs
  cases h w hw with
  | double | string | array => cases hown
  | document hkeys => exact hkeys s hown

theorem bodiesTell_of_isElementary {v w : Value} (hv : v.EveryPart IsElementary)
    (hw : w.EveryPart IsElementary) (limit : Nat) : v.BodiesTell Eq limit w := by
  induction v using induction_parts generalizing w with
  | node v ih =>
      rw [everyPart_iff] at hv hw
      obtain ⟨hv, hvparts⟩ := hv
      obtain ⟨hw, hwparts⟩ := hw
      have hparts : ∀ u ∈ v.parts, ∀ u' ∈ w.parts, u.BodiesTell Eq limit u' :=
        fun u hu u' hu' => ih u hu (hvparts u hu) (hwparts u' hu')
      intro x y r q htag hx hy hxlen hylen h
      cases hv with
      | double a =>
          cases hw with
          | double b =>
              have hshort (z : Double) : (littleEndian 8 z.bits.toNat).length < Nat.pow 2 31 := by
                rw [length_littleEndian]
                decide
              cases hx
              cases hy
              obtain ⟨hab, hrq⟩ := delimited_word64 _ _ (hshort a) (hshort b) h
              exact ⟨by cases a; cases b; cases hab; rfl, hrq⟩
          | string | array | document => cases htag
      | string hs =>
          cases hw with
          | string ht =>
              cases hx
              cases hy
              obtain ⟨rfl, hrq⟩ := delimited_sized _ _ hs ht h
              exact ⟨rfl, hrq⟩
          | double | array | document => cases htag
      | array vs =>
          cases hw with
          | array ws =>
              obtain ⟨a, ha, rfl⟩ := body_array_eq_ok.mp hx
              obtain ⟨b, hb, rfl⟩ := body_array_eq_ok.mp hy
              obtain ⟨hitems, hrq⟩ := array_of_append hparts ha hb hxlen hylen h
              rw [List.forall₂_eq_eq_eq] at hitems
              exact ⟨congrArg _ hitems, hrq⟩
          | double | string | document => cases htag
      | @document d hkeys =>
          cases hw with
          | @document e hkeys' =>
              obtain ⟨a, ha, rfl⟩ := body_document_eq_ok.mp hx
              obtain ⟨b, hb, rfl⟩ := body_document_eq_ok.mp hy
              obtain ⟨hmembers, hrq⟩ := document_of_append hparts ha hb hxlen hylen h
              exact ⟨congrArg _ (Document.eq_of_pointwise hmembers), hrq⟩
          | double | string | array => cases htag

/-- Elementary values are equal only to themselves. -/
theorem eq_of_equal_of_isElementary {v w : Value} (hv : v.EveryPart IsElementary)
    (hw : w.EveryPart IsElementary) (h : v.equal w = true) : v = w := by
  obtain ⟨x, hx⟩ := writable_iff.mp (writable_of_isElementary hv)
  have hsame := sameEncoding_of_equal h
  have hy : w.body = .ok x := hsame.body_eq ▸ hx
  have hlen := Nat.lt_succ_self x.length
  have hxx : x ++ [] = x ++ [] := rfl
  exact (bodiesTell_of_isElementary hv hw _ (hsame.tag_eq hx) hx hy hlen hlen hxx).1

theorem everyPart_array_map {p : Value → Prop} {α : Type} {render : α → Value}
    (harray : ∀ vs, p (array vs)) (h : ∀ a, (render a).EveryPart p) (as : List α) :
    (array (as.map render)).EveryPart p :=
  (everyPart_iff p _).mpr ⟨harray _, List.forall_mem_map.mpr fun a _ => h a⟩

end Value

/-! ### Documents of geometries -/

theorem Point.position_injective : Function.Injective Point.position := by
  rintro ⟨x, y, _, _⟩ ⟨x', y', _, _⟩ h
  simp only [position, Value.array.injEq, List.cons.injEq, Value.scalar.injEq,
    Scalar.double.injEq] at h
  obtain ⟨rfl, rfl, _⟩ := h
  rfl

theorem Ring.points_injective : Function.Injective Ring.points := by
  rintro ⟨ps, _, _⟩ ⟨qs, _, _⟩ h
  cases h
  rfl

theorem Polygon.rings_injective : Function.Injective Polygon.rings := by
  rintro ⟨r, rs⟩ ⟨s, ss⟩ h
  cases List.map_injective_iff.mpr Ring.points_injective h
  rfl

theorem Point.everyPart_position (p : Point) : p.position.EveryPart Value.IsElementary :=
  Value.everyPart_array_map .array
    (fun x => Value.everyPart_scalar_iff.mpr (.double x)) [p.longitude, p.latitude]

namespace Geometry

theorem row_injective : Function.Injective fun points : List Point =>
    Value.array (points.map Point.position) := by
  intro ps qs h
  exact List.map_injective_iff.mpr Point.position_injective (Value.array.inj h)

theorem toDocument_injective : Function.Injective toDocument := by
  intro g h hgh
  simp only [toDocument, List.cons.injEq, Prod.mk.injEq, Value.scalar.injEq, Scalar.string.injEq,
    true_and, and_true] at hgh
  obtain ⟨hname, hcoordinates⟩ := hgh
  cases g <;> cases h <;> simp only [typeName, String.reduceEq] at hname
  case point.point p q => exact congrArg point (Point.position_injective hcoordinates)
  case lineString.lineString ps qs => exact congrArg lineString (row_injective hcoordinates)
  case multiPoint.multiPoint ps qs => exact congrArg multiPoint (row_injective hcoordinates)
  case polygon.polygon p q =>
    have hrings := List.map_injective_iff.mpr row_injective (Value.array.inj hcoordinates)
    exact congrArg polygon (Polygon.rings_injective hrings)

theorem everyPart_coordinates (g : Geometry) : g.coordinates.EveryPart Value.IsElementary := by
  have hrow := Value.everyPart_array_map Value.IsElementary.array Point.everyPart_position
  cases g with
  | point p => exact p.everyPart_position
  | lineString ps | multiPoint ps => exact hrow ps
  | polygon p => exact Value.everyPart_array_map .array hrow p.rings

theorem everyPart_toDocument (g : Geometry) :
    (Value.document g.toDocument).EveryPart Value.IsElementary := by
  have hname : (sized g.typeName).length < Nat.pow 2 31 := by
    cases g <;> simp only [typeName] <;> decide
  rw [Value.everyPart_iff]
  constructor
  · refine .document fun key hkey => ?_
    simp only [toDocument, Document.keys, List.map_cons, List.map_nil, List.mem_cons,
      List.not_mem_nil, or_false] at hkey
    rcases hkey with rfl | rfl <;> decide
  · intro u hu
    simp only [Value.parts, toDocument, Document.values, List.map_cons, List.map_nil, List.mem_cons,
      List.not_mem_nil, or_false] at hu
    rcases hu with rfl | rfl
    · exact Value.everyPart_scalar_iff.mpr (.string hname)
    · exact g.everyPart_coordinates

theorem sameDocument_iff {g h : Geometry} : g.sameDocument h = true ↔ g = h := by
  constructor
  · intro hequal
    have := Value.eq_of_equal_of_isElementary g.everyPart_toDocument h.everyPart_toDocument hequal
    exact toDocument_injective (Value.document.inj this)
  · rintro rfl
    exact sameDocument_self g

end Geometry

/-! ### The signs of zeros -/

namespace Double

theorem magnitude_unsignedZero (x : Double) : x.unsignedZero.magnitude = x.magnitude := by
  unfold unsignedZero
  split
  · next h => rw [h]; rfl
  · rfl

theorem unsignedZero_unsignedZero (x : Double) : x.unsignedZero.unsignedZero = x.unsignedZero := by
  by_cases h : x.magnitude = 0
  · rw [unsignedZero, magnitude_unsignedZero, if_pos h, unsignedZero, if_pos h]
  · rw [unsignedZero, magnitude_unsignedZero, if_neg h]

/-- Numbers are the same exactly when their bits are, but for the sign of zero. -/
theorem sameNumber_iff {x y : Double} (hx : x.isNaN = false) :
    x.sameNumber y = true ↔ x.unsignedZero = y.unsignedZero := by
  simp only [sameNumber, hx, Bool.not_false, Bool.true_and, Bool.or_eq_true, Bool.and_eq_true,
    beq_iff_eq]
  constructor
  · rintro (rfl | ⟨hx0, hy0⟩)
    · rfl
    · rw [unsignedZero, unsignedZero, if_pos hx0, if_pos hy0]
  · intro h
    have hmagnitude : x.magnitude = y.magnitude := by
      rw [← magnitude_unsignedZero x, h, magnitude_unsignedZero]
    by_cases hx0 : x.magnitude = 0
    · exact .inr ⟨hx0, hmagnitude ▸ hx0⟩
    · rw [unsignedZero, unsignedZero, if_neg hx0, if_neg (hmagnitude ▸ hx0)] at h
      exact .inl h

theorem isNaN_eq_false {x : Double} {bound : Nat} (h : x.magnitude ≤ bound)
    (hbound : bound ≤ infinityMagnitude) : x.isNaN = false :=
  decide_eq_false (Nat.not_lt.mpr (h.trans hbound))

end Double

/-- The point with `0.0` for each `-0.0`. -/
def Point.unsignedZeros (p : Point) : Point where
  longitude := p.longitude.unsignedZero
  latitude := p.latitude.unsignedZero
  longitude_le := p.longitude.magnitude_unsignedZero.symm ▸ p.longitude_le
  latitude_le := p.latitude.magnitude_unsignedZero.symm ▸ p.latitude_le

theorem Point.samePlace_iff {p q : Point} :
    p.samePlace q = true ↔ p.unsignedZeros = q.unsignedZeros := by
  rw [samePlace, Bool.and_eq_true,
    Double.sameNumber_iff (Double.isNaN_eq_false p.longitude_le (by decide)),
    Double.sameNumber_iff (Double.isNaN_eq_false p.latitude_le (by decide)), unsignedZeros,
    unsignedZeros, Point.mk.injEq]

theorem samePlaces_iff {ps qs : List Point} :
    samePlaces ps qs = true ↔ ps.map Point.unsignedZeros = qs.map Point.unsignedZeros := by
  induction ps generalizing qs with
  | nil => cases qs <;> simp [samePlaces]
  | cons p ps ih => cases qs <;> simp [samePlaces, Point.samePlace_iff, ih]

theorem Point.samePlace_unsignedZeros (p q : Point) :
    p.unsignedZeros.samePlace q.unsignedZeros = p.samePlace q := by
  have hself (p : Point) : p.unsignedZeros.unsignedZeros = p.unsignedZeros := by
    simp only [unsignedZeros, Double.unsignedZero_unsignedZero]
  rw [Bool.eq_iff_iff, samePlace_iff, samePlace_iff, hself, hself]

/-- A row of points stays closed. -/
theorem isClosed_map_unsignedZeros (ps : List Point) :
    isClosed (ps.map Point.unsignedZeros) = isClosed ps := by
  unfold isClosed
  rw [List.head?_map, List.getLast?_map]
  cases ps.head? <;> cases ps.getLast? <;>
    simp only [Option.map_none, Option.map_some, Point.samePlace_unsignedZeros]

def Ring.unsignedZeros (r : Ring) : Ring where
  points := r.points.map Point.unsignedZeros
  four_le := by rw [List.length_map]; exact r.four_le
  closed := by rw [isClosed_map_unsignedZeros]; exact r.closed

def Polygon.unsignedZeros (p : Polygon) : Polygon :=
  ⟨p.exterior.unsignedZeros, p.holes.map Ring.unsignedZeros⟩

/-- The geometry with `0.0` for each `-0.0` in its coordinates. -/
def Geometry.unsignedZeros : Geometry → Geometry
  | point p => point p.unsignedZeros
  | lineString points => lineString (points.map Point.unsignedZeros)
  | polygon p => polygon p.unsignedZeros
  | multiPoint points => multiPoint (points.map Point.unsignedZeros)

theorem Polygon.rings_unsignedZeros (p : Polygon) :
    p.unsignedZeros.rings = p.rings.map (List.map Point.unsignedZeros) := by
  simp [rings, unsignedZeros, Ring.unsignedZeros, Function.comp_def]

theorem all_samePlaces_iff {ps qs : List (List Point)} :
    (ps.length == qs.length && (ps.zip qs).all fun (p, q) => samePlaces p q) = true ↔
      ps.map (List.map Point.unsignedZeros) = qs.map (List.map Point.unsignedZeros) := by
  induction ps generalizing qs with
  | nil => cases qs <;> simp
  | cons p ps ih =>
      cases qs with
      | nil => simp
      | cons q qs =>
          rw [List.map_cons, List.map_cons, List.cons.injEq, ← ih, ← samePlaces_iff]
          simp
          tauto

namespace Geometry

/-- Geometries have the same shape exactly when they are the same but for the signs of zeros. -/
theorem sameShape_iff {g h : Geometry} :
    g.sameShape h = true ↔ g.unsignedZeros = h.unsignedZeros := by
  cases g <;> cases h <;> simp only [sameShape, unsignedZeros, Point.samePlace_iff, samePlaces_iff,
    Bool.false_eq_true, point.injEq, lineString.injEq, multiPoint.injEq, polygon.injEq, reduceCtorEq]
  rw [all_samePlaces_iff, ← Polygon.rings_unsignedZeros, ← Polygon.rings_unsignedZeros,
    Polygon.rings_injective.eq_iff]

end Geometry

namespace Filter

/-- Filters for two geometries at one key are the same exactly when the geometries agree in every
bit; the geometries have the same shape exactly when these filters are the same after each `-0.0`
has become `0.0`. -/
theorem same_intersects_iff (key : String) (g h : Geometry) :
    ((intersects key g).same (intersects key h) = true ↔ g = h) ∧
    (g.sameShape h = true ↔
      (intersects key g.unsignedZeros).same (intersects key h.unsignedZeros) = true) := by
  have hsame (g h : Geometry) : (intersects key g).same (intersects key h) = true ↔ g = h := by
    rw [same, beq_self_eq_true, Bool.true_and, Geometry.sameDocument_iff]
  exact ⟨hsame g h, Geometry.sameShape_iff.trans (hsame _ _).symm⟩

end Filter
end DocFilter

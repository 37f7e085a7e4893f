import DocFilter.Number.Notation
import DocFilter.Value.Document

/-! # Geometries

Positions on the globe and the shapes made of them.  A `Point` lies within the ranges of longitude
and latitude, and a `Ring` is closed and long enough, by construction; `Point.of` and `Polygon.of`
are the ways to obtain them from coordinates and say what is wrong with the first faulty part.
Every geometry is rendered as a document with its type and its coordinates. -/

namespace DocFilter

/-- What is wrong with coordinates. -/
inductive GeometryFault where
  | longitude (x : Double)
  | latitude (x : Double)
  /-- A ring, by its position, with too few points. -/
  | ringTooShort (index count : Nat)
  | ringOpen (index : Nat)
  | lineTooShort (count : Nat)
  | noPositions
  /-- A fault that a caller describes. -/
  | other (description : String)
deriving DecidableEq, Repr

def GeometryFault.message : GeometryFault → String
  | longitude x => "longitude " ++ x.plainText ++ " out of range [-180, 180]"
  | latitude x => "latitude " ++ x.plainText ++ " out of range [-90, 90]"
  | ringTooShort index count =>
    "polygon ring " ++ toString index ++ " has " ++ toString count ++
      " positions, at least 4 are required"
  | ringOpen index => "polygon ring " ++ toString index ++ " is not closed"
  | lineTooShort count =>
    "line string has " ++ toString count ++ " positions, at least 2 are required"
  | noPositions => "multi-point has no positions"
  | other description => description

/-! ### Points -/

/-- The magnitude of the double 180. -/
def longitudeBound : Nat := 0x4066800000000000

/-- The magnitude of the double 90. -/
def latitudeBound : Nat := 0x4056800000000000

/-- A position.  Magnitudes order as absolute values, and those of NaNs lie above all numbers. -/
structure Point where
  longitude : Double
  latitude : Double
  longitude_le : longitude.magnitude ≤ longitudeBound
  latitude_le : latitude.magnitude ≤ latitudeBound
deriving DecidableEq, Repr

namespace Point

/-- The point with the given coordinates, the longitude checked first. -/
def of (longitude latitude : Double) : Except GeometryFault Point :=
  if hlon : longitude.magnitude ≤ longitudeBound then
    if hlat : latitude.magnitude ≤ latitudeBound then .ok ⟨longitude, latitude, hlon, hlat⟩
    else .error (.latitude latitude)
  else .error (.longitude longitude)

/-- Whether two points have the same coordinates as numbers. -/
def samePlace (p q : Point) : Bool :=
  p.longitude.sameNumber q.longitude && p.latitude.sameNumber q.latitude

/-- The coordinates in the order longitude, latitude. -/
def position (p : Point) : Value := .array [.double p.longitude, .double p.latitude]

end Point

/-- Whether two rows of points have the same places, one by one. -/
def samePlaces : List Point → List Point → Bool
  | [], [] => true
  | p :: ps, q :: qs => p.samePlace q && samePlaces ps qs
  | _, _ => false

/-! ### Polygons -/

/-- Whether a row of points ends where it starts. -/
def isClosed (points : List Point) : Bool :=
  match points.head?, points.getLast? with
  | some first, some last => first.samePlace last
  | none, none => true
  | _, _ => false

/-- At least four points that end where they start. -/
structure Ring where
  points : List Point
  four_le : 4 ≤ points.length
  closed : isClosed points
deriving DecidableEq, Repr

/-- The ring of the given points, which stands at `index` in its polygon. -/
def Ring.of (index : Nat) (points : List Point) : Except GeometryFault Ring :=
  if hlen : 4 ≤ points.length then
    if hclosed : isClosed points then .ok ⟨points, hlen, hclosed⟩
    else .error (.ringOpen index)
  else .error (.ringTooShort index points.length)

/-- One exterior ring and the holes in it. -/
structure Polygon where
  exterior : Ring
  holes : List Ring
deriving DecidableEq, Repr

namespace Polygon

/-- Rings with their positions from `index` on, up to the first faulty one. -/
def ringsFrom (index : Nat) : List (List Point) → Except GeometryFault (List Ring)
  | [] => .ok []
  | points :: rest => do
    let ring ← Ring.of index points
    let rings ← ringsFrom (index + 1) rest
    return ring :: rings

/-- The polygon with the given rings. -/
def of (exterior : List Point) (holes : List (List Point)) : Except GeometryFault Polygon := do
  let exterior ← Ring.of 0 exterior
  let holes ← ringsFrom 1 holes
  return ⟨exterior, holes⟩

def rings (p : Polygon) : List (List Point) := (p.exterior :: p.holes).map (·.points)

end Polygon

/-! ### All shapes -/

inductive Geometry where
  | point (p : Point)
  | lineString (points : List Point)
  | polygon (p : Polygon)
  | multiPoint (points : List Point)
deriving DecidableEq, Repr

namespace Geometry

/-- A line through at least two points. -/
def ofLine (points : List Point) : Except GeometryFault Geometry :=
  if points.length < 2 then .error (.lineTooShort points.length) else .ok (.lineString points)

/-- A set of at least one point. -/
def ofPoints (points : List Point) : Except GeometryFault Geometry :=
  if points.isEmpty then .error .noPositions else .ok (.multiPoint points)

def typeName : Geometry → String
  | point _ => "Point"
  | lineString _ => "LineString"
  | polygon _ => "Polygon"
  | multiPoint _ => "MultiPoint"

def coordinates : Geometry → Value
  | point p => p.position
  | lineString points | multiPoint points => .array (points.map Point.position)
  | polygon p => .array (p.rings.map fun points => .array (points.map Point.position))

/-- The geometry as a document. -/
def toDocument (g : Geometry) : Document :=
  [("type", .string g.typeName), ("coordinates", g.coordinates)]

/-- Whether two geometries have the same shape and the same places in it. -/
def sameShape : Geometry → Geometry → Bool
  | point p, point q => p.samePlace q
  | lineString ps, lineString qs | multiPoint ps, multiPoint qs => samePlaces ps qs
  | polygon p, polygon q =>
    p.rings.length == q.rings.length &&
      (p.rings.zip q.rings).all fun (ps, qs) => samePlaces ps qs
  | _, _ => false

end Geometry

/-! ### Operators -/

/-- Distances are measured on a plane or on the sphere. -/
inductive Metric where
  | flat | sphere
deriving DecidableEq, Repr

inductive GeoOperator where
  | near (metric : Metric)
  | within
  | intersects
deriving DecidableEq, Repr

namespace GeoOperator

def keyword : GeoOperator → String
  | near .flat => "$near"
  | near .sphere => "$nearSphere"
  | within => "$geoWithin"
  | intersects => "$geoIntersects"

/-- The document that applies the operator to a field, the distances last. -/
def clause (op : GeoOperator) (key : String) (g : Geometry) (max min : Option Double) : Document :=
  let distance (name : String) (d : Option Double) : Document :=
    (d.map fun x => (name, Value.double x)).toList
  [(key, .document [(op.keyword, .document (
    ("$geometry", .document g.toDocument) ::
      (distance "$maxDistance" max ++ distance "$minDistance" min)))])]

end GeoOperator
end DocFilter

import DocFilter.Filter.Compile

/-! # Equality of filters

Two filters are the same when they have the same shape and their parts agree: values by
`Value.equal`, options of patterns as they are written, distances by their bits, and raw documents
as maps, in whatever order their members stand.

Maps are compared by `Document.sameMembers`, which takes the members of one side out of the other
and so sees every member of both.  For documents that have each key once this is the same as to look
up the keys of one side in the other (`Document.sameLookup`). -/

namespace DocFilter

/-- Takes out the first member with a key. -/
def Document.extract (key : String) : Document → Option (Value × Document)
  | [] => none
  | (k, v) :: rest =>
    if k = key then some (v, rest)
    else (extract key rest).map fun (value, others) => (value, (k, v) :: others)

/-- Equality of documents as maps: they have the same keys, and at each key equal values. -/
def Document.sameMembers : Document → Document → Bool
  | [], other => other.isEmpty
  | (key, value) :: rest, other =>
    match extract key other with
    | some (v, others) => value.equal v && sameMembers rest others
    | none => false

/-- Equality of documents that have each key once, looked up from one side: there are as many keys
on the other, and each value is equal to the one at its key there. -/
def Document.sameLookup (d e : Document) : Bool :=
  d.length == e.length && d.all fun (key, value) => (e.lookup key).any value.equal

/-- Whether two rows of values are equal, one by one. -/
def allEqual : List Value → List Value → Bool
  | [], [] => true
  | a :: as, b :: bs => a.equal b && allEqual as bs
  | _, _ => false

/-- Whether two geometries are written alike. -/
def Geometry.sameDocument (g h : Geometry) : Bool :=
  (Value.document g.toDocument).equal (.document h.toDocument)

namespace Filter

mutual
def same : Filter → Filter → Bool
  | nothing, nothing => true
  | typeIs k s, typeIs l t => k == l && s == t
  | compare o k v, compare p l w => o == p && k == l && v.equal w
  | elemMatch k f, elemMatch l g => k == l && f.same g
  | group c fs, group d gs => c == d && allSame fs gs
  | not f, not g => f.same g
  | matching a k p o, matching b l q u =>
    a == b && k == l && p == q && a.normalOptions o == b.normalOptions u
  | raw d, raw e => d.sameMembers e
  | present k b, present l c => k == l && b == c
  | isIn k vs, isIn l ws => k == l && allEqual vs ws
  | near m k p x y, near n l q z w =>
    m == n && k == l && (Geometry.point p).sameDocument (.point q) && x == z && y == w
  | within k p, within l q => k == l && (Geometry.polygon p).sameDocument (.polygon q)
  | intersects k g, intersects l h => k == l && g.sameDocument h
  | _, _ => false

def allSame : List Filter → List Filter → Bool
  | [], [] => true
  | f :: fs, g :: gs => f.same g && allSame fs gs
  | _, _ => false
end

end Filter
end DocFilter

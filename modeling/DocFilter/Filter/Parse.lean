import DocFilter.Filter.Basic
import DocFilter.Filter.Event
import DocFilter.Filter.Shape
import DocFilter.Settings.Parser

/-! # Reading filter documents

`Filter.ofDocument` reads a document as a filter.  It never fails: a member whose shape it does not
know, or that lies too deep, becomes a raw filter, so that it compiles back to what it was.

The reader goes through the documents that a shape holds, down to a given number of levels.  The
members of the conjunction that a document with more than one key stands for lie one level below the
document, as they do once it is compiled.  Each raw filter is reported by one event, in the order of
the tree.

`ofMember_zero` and `ofMember_succ` say how a member is read, `ofDocumentAt_singleton`,
`ofDocumentAt_passthrough` and `ofDocumentAt_conjunction` how a document is. -/

namespace DocFilter

namespace Filter

/-- A member, as the raw document that holds it alone. -/
def rawMember (member : String × Value) : Filter := raw [member]

/-- Reads a member, given the reader of the documents inside it. -/
def ofMemberWith (document : Document → Logged Filter) (member : String × Value) :
    Logged Filter :=
  let (key, value) := member
  match Shape.of key value with
  | .logical connective documents => (Logged.all (documents.map document)).map (group connective)
  | .comparison op operand => .silent (compare op key operand)
  | .membership values => .silent (isIn key values)
  | .elemMatch condition => (document condition).map (elemMatch key)
  | .unknown => .reporting (.unrecognized key) (rawMember member)

/-- Reads a document, given the reader of an only member and the reader of the members of a
conjunction. -/
def ofDocumentWith (multiKey : MultiKey) (only inner : String × Value → Logged Filter)
    (d : Document) : Logged Filter :=
  match d, multiKey with
  | [], _ => .silent nothing
  | [member], _ => only member
  | d, .passthrough => .reporting (.multiKeyKept d.length) (raw d)
  | d, .conjunction => (Logged.all (d.map inner)).map (group .and)

/-- Reads a member at a depth with this many levels left. -/
def ofMember (multiKey : MultiKey) : Nat → Nat → String × Value → Logged Filter
  | 0, depth, member => .reporting (.depthExceeded member.1 depth) (rawMember member)
  | 1, depth, member =>
    ofMemberWith (ofDocumentWith multiKey (ofMember multiKey 0 (depth + 1))
      (ofMember multiKey 0 (depth + 2))) member
  | levels + 2, depth, member =>
    ofMemberWith (ofDocumentWith multiKey (ofMember multiKey (levels + 1) (depth + 1))
      (ofMember multiKey levels (depth + 2))) member

/-- Reads a document at a depth with this many levels left. -/
def ofDocumentAt (multiKey : MultiKey) (levels depth : Nat) (d : Document) : Logged Filter :=
  ofDocumentWith multiKey (ofMember multiKey levels depth)
    (ofMember multiKey (levels - 1) (depth + 1)) d

/-! ### One step of the reader -/

section
variable (multiKey : MultiKey) (levels depth : Nat)

theorem ofMember_zero (member : String × Value) :
    ofMember multiKey 0 depth member =
      .reporting (.depthExceeded member.1 depth) (rawMember member) := by
  rw [ofMember]

theorem ofMember_succ (member : String × Value) :
    ofMember multiKey (levels + 1) depth member =
      ofMemberWith (ofDocumentAt multiKey levels (depth + 1)) member := by
  cases levels <;> rw [ofMember] <;> rfl

theorem ofDocumentAt_singleton (member : String × Value) :
    ofDocumentAt multiKey levels depth [member] = ofMember multiKey levels depth member := rfl

theorem ofDocumentAt_passthrough {d : Document} (h : 1 < d.length) :
    ofDocumentAt .passthrough levels depth d = .reporting (.multiKeyKept d.length) (raw d) := by
  obtain _ | ⟨_, _ | ⟨_, _⟩⟩ := d
  · simp at h
  · simp at h
  · rfl

theorem ofDocumentAt_conjunction {d : Document} (h : 1 < d.length) :
    ofDocumentAt .conjunction levels depth d =
      (Logged.all (d.map (ofMember .conjunction (levels - 1) (depth + 1)))).map (group .and) := by
  obtain _ | ⟨_, _ | ⟨_, _⟩⟩ := d
  · simp at h
  · simp at h
  · rfl

end

/-! ### Reading from the root -/

/-- Reads a document and reports what is kept raw. -/
def parse (config : ParseConfig) (d : Document) : Logged Filter :=
  ofDocumentAt config.multiKey config.maxDepth 0 d

/-- The filter that a document states. -/
def ofDocument (config : ParseConfig) (d : Document) : Filter := (parse config d).value

end Filter
end DocFilter

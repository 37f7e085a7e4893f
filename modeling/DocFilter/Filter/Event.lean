/-! # Events

What parsing and compiling report while they run.  A computation that reports is a `Logged` value:
its result and its events in the order of their occurrence. -/

namespace DocFilter

inductive Event where
  /-- A document was compiled to one with this many keys. -/
  | compiled (keys : Nat)
  /-- A document with this many keys was kept raw. -/
  | multiKeyKept (keys : Nat)
  /-- A member of no known shape was kept raw. -/
  | unrecognized (key : String)
  /-- A member below the greatest depth was kept raw. -/
  | depthExceeded (key : String) (depth : Nat)
deriving DecidableEq, Repr

inductive Severity where
  | trace | debug
deriving DecidableEq, Repr

namespace Event

def severity : Event → Severity
  | depthExceeded .. => .debug
  | _ => .trace

def message : Event → String
  | compiled _ => "compiled filter document"
  | multiKeyKept _ => "multi-key document kept as raw filter"
  | unrecognized _ => "unrecognized filter shape, keeping raw pair"
  | depthExceeded .. => "filter nesting exceeds max depth, keeping raw pair"

end Event

def Severity.name : Severity → String
  | trace => "TRACE"
  | debug => "DEBUG"

structure Logged (α : Type) where
  value : α
  events : List Event
deriving DecidableEq, Repr

namespace Logged

variable {α β : Type}

/-- A result without events. -/
def silent (value : α) : Logged α := ⟨value, []⟩

/-- A result with one event. -/
def reporting (event : Event) (value : α) : Logged α := ⟨value, [event]⟩

def map (f : α → β) (x : Logged α) : Logged β := ⟨f x.value, x.events⟩

/-- The results of a row of computations, one after the other. -/
def all (xs : List (Logged α)) : Logged (List α) := ⟨xs.map (·.value), xs.flatMap (·.events)⟩

end Logged
end DocFilter

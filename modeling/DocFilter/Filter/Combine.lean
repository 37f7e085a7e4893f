import DocFilter.Filter.Basic

/-! # Combining filters

`and`, `or` and `negate` build filters out of filters.  `nothing` is neutral in both joins
(`join_nothing`, `nothing_join`) and groups of one kind are merged rather than nested
(`join_group_group`), so that a chain of joins gives one flat group.  Of a group and another
condition, the condition comes last, whichever side it was on.  Filters are also combined by the
operators of bits. -/

namespace DocFilter.Filter

/-- The conditions of a group of the given kind. -/
def conditionsOf? (connective : Connective) : Filter → Option (List Filter)
  | group c conditions => if c = connective then some conditions else none
  | _ => none

/-- The filter that holds when both do, or when one of them does. -/
def join (connective : Connective) (a b : Filter) : Filter :=
  match conditionsOf? connective a, conditionsOf? connective b with
  | some as, some bs => group connective (as ++ bs)
  | some as, none => if b.isNothing then a else group connective (as ++ [b])
  | none, some bs => if a.isNothing then b else group connective (bs ++ [a])
  | none, none =>
    if a.isNothing then b else if b.isNothing then a else group connective [a, b]

theorem join_nothing (c : Connective) (f : Filter) : join c f nothing = f := by
  cases f with
  | group d fs => by_cases h : d = c <;> simp [join, conditionsOf?, isNothing, h]
  | nothing => rfl
  | _ => simp [join, conditionsOf?, isNothing]

theorem nothing_join (c : Connective) (f : Filter) : join c nothing f = f := by
  cases f with
  | group d fs => by_cases h : d = c <;> simp [join, conditionsOf?, isNothing, h]
  | nothing => rfl
  | _ => simp [join, conditionsOf?, isNothing]

theorem join_group_group (c : Connective) (fs gs : List Filter) :
    join c (group c fs) (group c gs) = group c (fs ++ gs) := by
  simp [join, conditionsOf?]

def and (a b : Filter) : Filter := join .and a b

def or (a b : Filter) : Filter := join .or a b

/-- The negation.  That of no condition would be of no use, so `nothing` stays as it is. -/
def negate (f : Filter) : Filter := if f.isNothing then nothing else not f

/-- Joins filters from the first on. -/
def joinAll (connective : Connective) (fs : List Filter) : Filter :=
  fs.foldl (join connective) nothing

def allOf (fs : List Filter) : Filter := joinAll .and fs

def anyOf (fs : List Filter) : Filter := joinAll .or fs

/-- Equality with a value, or absence of the key. -/
def keyEq (key : String) : Option Value → Filter
  | some value => compare .eq key value
  | none => present key false

/-- Inequality to a value, or presence of the key. -/
def keyNe (key : String) : Option Value → Filter
  | some value => compare .ne key value
  | none => present key true

/-! ### Operators -/

instance : AndOp Filter := ⟨and⟩

instance : OrOp Filter := ⟨or⟩

instance : Complement Filter := ⟨negate⟩

/-- What is left in the place of a filter to which another one is assigned by conjunction. -/
def andAssign (place f : Filter) : Filter := place.and f

/-- What is left in the place of a filter to which another one is assigned by disjunction. -/
def orAssign (place f : Filter) : Filter := place.or f

end DocFilter.Filter

import DocFilter.Proofs.Containers

/-! # Values inside values

`w.Inside v` says that `w` stands in `v`, at any depth and `v` itself included, and `EveryPart p v`
that all values inside `v` have a property.  As for the nodes of filters it is proved and used one
level at a time (`everyPart_iff`). -/

namespace DocFilter
namespace Value

/-- The values inside a value: itself, and those inside its parts. -/
inductive Inside (w : Value) : Value → Prop
  | here : Inside w w
  | part {u v : Value} : u ∈ v.parts → Inside w u → Inside w v

theorem Inside.trans {u v w : Value} (hinner : u.Inside v) (houter : v.Inside w) : u.Inside w := by
  induction houter with
  | here => exact hinner
  | part hmem _ ih => exact .part hmem ih

/-- All values inside a value have a property. -/
def EveryPart (p : Value → Prop) (v : Value) : Prop := ∀ w : Value, w.Inside v → p w

theorem everyPart_iff (p : Value → Prop) (v : Value) :
    EveryPart p v ↔ p v ∧ ∀ u ∈ v.parts, EveryPart p u := by
  constructor
  · intro h
    exact ⟨h v .here, fun u hu w hw => h w (.part hu hw)⟩
  · rintro ⟨hself, hparts⟩ w hw
    cases hw with
    | here => exact hself
    | part hmem hinside => exact hparts _ hmem w hinside

theorem everyPart_scalar_iff {p : Value → Prop} {s : Scalar} :
    EveryPart p (scalar s) ↔ p (scalar s) := by
  rw [everyPart_iff]
  exact and_iff_left fun _ hw => absurd hw List.not_mem_nil

/-! ### Checking all parts -/

mutual
/-- Whether a test holds of all values inside a value. -/
def checkParts (p : Value → Bool) : Value → Bool
  | scalar s => p (scalar s)
  | array items => p (array items) && checkItems p items
  | document members => p (document members) && checkMembers p members
  | scopedCode source scope => p (scopedCode source scope) && checkMembers p scope

def checkItems (p : Value → Bool) : List Value → Bool
  | [] => true
  | v :: vs => checkParts p v && checkItems p vs

def checkMembers (p : Value → Bool) : List (String × Value) → Bool
  | [] => true
  | (_, v) :: rest => checkParts p v && checkMembers p rest
end

section
variable (p : Value → Bool)

theorem checkItems_eq_all (vs : List Value) : checkItems p vs = vs.all (checkParts p) := by
  induction vs with
  | nil => simp [checkItems]
  | cons v vs ih => simp [checkItems, ih]

theorem checkMembers_eq_all (d : Document) : checkMembers p d = d.values.all (checkParts p) := by
  induction d with
  | nil => simp [checkMembers, Document.values]
  | cons m rest ih => simpa [checkMembers, Document.values] using congrArg (checkParts p m.2 && ·) ih

theorem checkParts_iff (v : Value) :
    checkParts p v = true ↔ p v = true ∧ ∀ u ∈ v.parts, checkParts p u = true := by
  cases v with
  | scalar s => simp [checkParts, parts]
  | array items => simp [checkParts, parts, checkItems_eq_all]
  | document members => simp [checkParts, parts, checkMembers_eq_all]
  | scopedCode source scope => simp [checkParts, parts, checkMembers_eq_all]

theorem checkParts_iff_everyPart (v : Value) :
    checkParts p v = true ↔ EveryPart (fun w => p w = true) v := by
  induction v using induction_parts with
  | node v ih =>
      rw [checkParts_iff, everyPart_iff]
      exact and_congr Iff.rfl (forall_congr' fun u => forall_congr' fun hu => ih u hu)

end

instance (p : Value → Prop) [DecidablePred p] (v : Value) : Decidable (EveryPart p v) :=
  decidable_of_iff (checkParts (fun w => decide (p w)) v) (by
    rw [checkParts_iff_everyPart]
    simp)

end Value
end DocFilter

import DocFilter.Proofs.Numerals
import DocFilter.Settings.Parser

/-! # Configurations from named texts

Which texts set a strategy and a depth, and what is wrong with the others.  A strategy is set by one
of its names (`MultiKey.names`), and a depth by a numeral for a number of 64 bits that is not zero.
A text that is absent sets the default, and blanks around a text do not count
(`Text.trimChars_padded`).

Loading takes the texts one after the other (`ParseConfig.ofLookup_eq`).  So it gives what both of
them set (`ParseConfig.ofLookup_eq_ok_iff`), or blames the first that sets nothing
(`ParseConfig.ofLookup_eq_error_iff`). -/

namespace DocFilter

/-! ### Blanks -/

namespace Text

theorem dropWhile_isBlank {cs : List Char} (h : ∀ c, cs.head? = some c → isBlank c = false) :
    cs.dropWhile isBlank = cs := by
  cases cs with
  | nil => rfl
  | cons c cs => rw [List.dropWhile_cons_of_neg (by simp [h c rfl])]

/-- A text that neither starts nor ends with a blank is what is left of it between blanks. -/
theorem trimChars_padded {before cs after : List Char} (hne : cs ≠ [])
    (hfirst : ∀ c, cs.head? = some c → isBlank c = false)
    (hlast : ∀ c, cs.getLast? = some c → isBlank c = false)
    (hbefore : ∀ c ∈ before, isBlank c = true) (hafter : ∀ c ∈ after, isBlank c = true) :
    trimChars (before ++ cs ++ after) = cs := by
  have hfront : (before ++ cs ++ after).dropWhile isBlank = cs ++ after := by
    rw [List.append_assoc, List.dropWhile_append_of_pos hbefore]
    obtain ⟨first, rest, rfl⟩ := List.exists_cons_of_ne_nil hne
    exact dropWhile_isBlank hfirst
  have hback : (cs ++ after).reverse.dropWhile isBlank = cs.reverse := by
    rw [List.reverse_append, List.dropWhile_append_of_pos (by simpa using hafter)]
    refine dropWhile_isBlank fun c hc => hlast c ?_
    rwa [List.head?_reverse] at hc
  rw [trimChars, hfront, hback, List.reverse_reverse]

theorem isBlank_of_isDigit {c : Char} (h : c.isDigit = true) : isBlank c = false := by
  have hdigit : 48 ≤ c.toNat ∧ c.toNat ≤ 57 := Char.isDigit_iff_toNat.mp h
  rw [← Bool.not_eq_true, isBlank]
  simp only [Bool.decide_and, Bool.or_eq_true, Bool.and_eq_true, decide_eq_true_eq, beq_iff_eq]
  omega

end Text

/-! ### Strategies -/

namespace MultiKey

/-- The names of a strategy. -/
def names : MultiKey → List String
  | passthrough => ["passthrough"]
  | conjunction => ["conjunction", "and"]

theorem ofName_eq_ok_iff {s : String} {m : MultiKey} :
    ofName s = .ok m ↔ Text.lowerCase s ∈ m.names := by
  unfold ofName
  dsimp only
  split
  · next h => cases m <;> simp [names, h]
  · next hpass =>
    split
    · next h => cases m <;> simp [names, hpass, h]
    · next h => cases m <;> simp [names, hpass, not_or.mp h]

theorem ofName_eq_error_iff {s : String} {fault : ConfigFault} :
    ofName s = .error fault ↔
      (∀ m : MultiKey, Text.lowerCase s ∉ m.names) ∧
        fault = .unknownStrategy (Text.lowerCase s) := by
  constructor
  · intro h
    refine ⟨fun m hm => ?_, ?_⟩
    · rw [ofName_eq_ok_iff.mpr hm] at h
      cases h
    · unfold ofName at h
      dsimp only at h
      split at h
      · cases h
      · split at h
        · cases h
        · cases h
          rfl
  · rintro ⟨hnone, rfl⟩
    have hpass := hnone passthrough
    have hconj := hnone conjunction
    simp only [names, List.mem_cons, List.not_mem_nil, or_false] at hpass hconj
    unfold ofName
    dsimp only
    rw [if_neg hpass, if_neg hconj]

end MultiKey

/-! ### Texts that set something -/

/-- The strategy that a text sets, which may be absent. -/
def SetsStrategy : Option String → MultiKey → Prop
  | none, m => m = .passthrough
  | some s, m => Text.lowerCase (Text.trim s) ∈ m.names

instance : (text : Option String) → (m : MultiKey) → Decidable (SetsStrategy text m)
  | none, m => inferInstanceAs (Decidable (m = .passthrough))
  | some s, m => inferInstanceAs (Decidable (Text.lowerCase (Text.trim s) ∈ m.names))

/-- What is wrong with a text that sets no strategy. -/
def BlamesStrategy : Option String → ConfigFault → Prop
  | none, _ => False
  | some s, fault => (∀ m : MultiKey, Text.lowerCase (Text.trim s) ∉ m.names) ∧
      fault = .unknownStrategy (Text.lowerCase (Text.trim s))

/-- The depth that a text sets, which may be absent. -/
def SetsDepth : Option String → Nat → Prop
  | none, n => n = 100
  | some s, n => IsNumeral (Text.trim s).toList n ∧ 1 ≤ n ∧ n < Nat.pow 2 64

instance : (text : Option String) → (n : Nat) → Decidable (SetsDepth text n)
  | none, n => inferInstanceAs (Decidable (n = 100))
  | some s, n => inferInstanceAs
      (Decidable (IsNumeral (Text.trim s).toList n ∧ 1 ≤ n ∧ n < Nat.pow 2 64))

/-- No text sets the depth to zero, and the default is another one. -/
theorem SetsDepth.one_le {text : Option String} {n : Nat} (h : SetsDepth text n) : 1 ≤ n := by
  cases text with
  | none =>
      cases h
      decide
  | some s => exact h.2.1

/-- What is wrong with a text that sets no depth: it is a numeral for zero, or none of 64 bits. -/
def BlamesDepth : Option String → ConfigFault → Prop
  | none, _ => False
  | some s, fault => IsNumeral (Text.trim s).toList 0 ∧ fault = .zeroDepth ∨
      ∃ reason, Unreadable depthBound (Text.trim s).toList reason ∧ fault = .invalidDepth reason

theorem readDepth_eq_ok_iff {s : String} {n : Nat} :
    readDepth s = .ok n ↔ IsNumeral (Text.trim s).toList n ∧ n < Nat.pow 2 64 := by
  have hbound : n ≤ depthBound ↔ n < Nat.pow 2 64 := Nat.le_sub_one_iff_lt (by decide)
  rw [← hbound, ← readNat_eq_ok_iff, readDepth]
  cases readNat depthBound (Text.trim s) <;> simp

theorem readDepth_eq_error_iff {s : String} {fault : ConfigFault} :
    readDepth s = .error fault ↔
      ∃ reason, Unreadable depthBound (Text.trim s).toList reason ∧
        fault = .invalidDepth reason := by
  simp only [← readNat_eq_error_iff]
  rw [readDepth]
  cases readNat depthBound (Text.trim s) <;> simp [eq_comm]

/-- A decimal text is what is left of it between blanks. -/
theorem trim_padded_toString (n : Nat) {before after : String}
    (hbefore : ∀ c ∈ before.toList, Text.isBlank c = true)
    (hafter : ∀ c ∈ after.toList, Text.isBlank c = true) :
    Text.trim (before ++ toString n ++ after) = toString n := by
  have hdigits : ∀ c ∈ (toString n).toList, Text.isBlank c = false := fun c hc =>
    Text.isBlank_of_isDigit (isDigit_of_mem_toString hc)
  rw [Text.trim, String.toList_append, String.toList_append,
    Text.trimChars_padded (toList_toString_ne_nil n)
      (fun c hc => hdigits c (List.mem_of_head? hc))
      (fun c hc => hdigits c (List.mem_of_getLast? hc)) hbefore hafter, String.ofList_toList]

/-! ### One setting after the other -/

/-- The strategy by a text or by default. -/
def loadStrategy : Option String → Except ConfigFault MultiKey
  | none => .ok .passthrough
  | some s => MultiKey.ofName (Text.trim s)

/-- The depth by a text or by default. -/
def loadDepth : Option String → Except ConfigFault Nat
  | none => .ok 100
  | some s =>
    match readDepth s with
    | .ok 0 => .error .zeroDepth
    | outcome => outcome

theorem loadStrategy_eq_ok_iff {text : Option String} {m : MultiKey} :
    loadStrategy text = .ok m ↔ SetsStrategy text m := by
  cases text with
  | none => rw [loadStrategy, Except.ok.injEq, eq_comm, SetsStrategy]
  | some s => rw [loadStrategy, MultiKey.ofName_eq_ok_iff, SetsStrategy]

theorem loadStrategy_eq_error_iff {text : Option String} {fault : ConfigFault} :
    loadStrategy text = .error fault ↔ BlamesStrategy text fault := by
  cases text with
  | none => exact iff_of_false nofun not_false
  | some s => rw [loadStrategy, MultiKey.ofName_eq_error_iff, BlamesStrategy]

theorem loadDepth_eq_ok_iff {text : Option String} {n : Nat} :
    loadDepth text = .ok n ↔ SetsDepth text n := by
  cases text with
  | none => rw [loadDepth, Except.ok.injEq, eq_comm, SetsDepth]
  | some s =>
      rw [SetsDepth, and_left_comm, ← readDepth_eq_ok_iff, loadDepth]
      rcases readDepth s with fault | _ | depth
      · simp
      · refine iff_of_false nofun ?_
        rintro ⟨hpos, hzero⟩
        cases hzero
        exact absurd hpos (by decide)
      · simp only [Except.ok.injEq, iff_and_self]
        rintro rfl
        exact Nat.succ_pos depth

theorem loadDepth_eq_error_iff {text : Option String} {fault : ConfigFault} :
    loadDepth text = .error fault ↔ BlamesDepth text fault := by
  cases text with
  | none => exact iff_of_false nofun not_false
  | some s =>
      have hzero : IsNumeral (Text.trim s).toList 0 ↔ readDepth s = .ok 0 := by
        rw [readDepth_eq_ok_iff, and_iff_left (by decide)]
      rw [BlamesDepth, hzero, ← readDepth_eq_error_iff, loadDepth]
      rcases readDepth s with fault' | _ | depth <;> simp [eq_comm]

namespace ParseConfig

/-- Building only looks at the depth. -/
theorem build_eq (multiKey : Option MultiKey) (text : Option String) : (do
    let maxDepth ← text.mapM readDepth
    ConfigBuilder.build { multiKey, maxDepth }) = (do
    let maxDepth ← loadDepth text
    return ⟨multiKey.getD .passthrough, maxDepth⟩) := by
  cases text with
  | none => rfl
  | some s =>
      rw [loadDepth, Option.mapM_some]
      rcases readDepth s with fault | _ | depth
      · rfl
      · rfl
      · rfl

/-- The texts are loaded one after the other. -/
theorem ofLookup_eq (lookup : String → Option String) : ofLookup lookup = (do
    let multiKey ← loadStrategy (lookup multiKeyVariable)
    let maxDepth ← loadDepth (lookup maxDepthVariable)
    return ⟨multiKey, maxDepth⟩) := by
  rw [ofLookup]
  simp only [build_eq]
  cases lookup multiKeyVariable with
  | none => rfl
  | some s =>
      rw [loadStrategy, Option.mapM_some]
      cases MultiKey.ofName (Text.trim s) with
      | error fault => rfl
      | ok m => rfl

theorem ofLookup_eq_ok_iff {lookup : String → Option String} {c : ParseConfig} :
    ofLookup lookup = .ok c ↔
      SetsStrategy (lookup multiKeyVariable) c.multiKey ∧
        SetsDepth (lookup maxDepthVariable) c.maxDepth := by
  obtain ⟨m, n⟩ := c
  rw [← loadStrategy_eq_ok_iff, ← loadDepth_eq_ok_iff, ofLookup_eq]
  cases loadStrategy (lookup multiKeyVariable) <;> cases loadDepth (lookup maxDepthVariable) <;>
    simp [bind, Except.bind, pure, Except.pure]

theorem ofLookup_eq_error_iff {lookup : String → Option String} {fault : ConfigFault} :
    ofLookup lookup = .error fault ↔
      BlamesStrategy (lookup multiKeyVariable) fault ∨
        (∃ m, SetsStrategy (lookup multiKeyVariable) m) ∧
          BlamesDepth (lookup maxDepthVariable) fault := by
  simp only [← loadStrategy_eq_ok_iff, ← loadStrategy_eq_error_iff, ← loadDepth_eq_error_iff]
  rw [ofLookup_eq]
  cases loadStrategy (lookup multiKeyVariable) <;> cases loadDepth (lookup maxDepthVariable) <;>
    simp [bind, Except.bind, pure, Except.pure]

/-- Loading succeeds exactly when each text is absent or sets something, and then gives what they
set.  Otherwise it blames a text for what is wrong with it: the strategy, whatever the depth is, and
else the depth.  The decimal text of a number of 64 bits that is not zero sets that number as the
depth, with any blanks around it. -/
theorem ofLookup_accepts_and_blames (lookup : String → Option String) :
    (∀ c, ofLookup lookup = .ok c ↔
      SetsStrategy (lookup multiKeyVariable) c.multiKey ∧
        SetsDepth (lookup maxDepthVariable) c.maxDepth) ∧
    (∀ fault, ofLookup lookup = .error fault ↔
      BlamesStrategy (lookup multiKeyVariable) fault ∨
        (∃ m, SetsStrategy (lookup multiKeyVariable) m) ∧
          BlamesDepth (lookup maxDepthVariable) fault) ∧
    (∀ (m : MultiKey) (n : Nat) (before after : String),
      SetsStrategy (lookup multiKeyVariable) m → 1 ≤ n → n < Nat.pow 2 64 →
      (∀ c ∈ before.toList, Text.isBlank c = true) → (∀ c ∈ after.toList, Text.isBlank c = true) →
      lookup maxDepthVariable = some (before ++ toString n ++ after) →
      ofLookup lookup = .ok ⟨m, n⟩) := by
  refine ⟨fun c => ofLookup_eq_ok_iff, fun fault => ofLookup_eq_error_iff, ?_⟩
  intro m n before after hm hpos hmax hbefore hafter hdepth
  rw [ofLookup_eq_ok_iff, hdepth, SetsDepth, trim_padded_toString n hbefore hafter]
  exact ⟨hm, isNumeral_toString n, hpos, hmax⟩

/-- A sign, zeros and blanks around the largest depth, a bad strategy before a bad depth, and depths
that are too large before another character comes, or zero. -/
theorem ofLookup_accepts_and_blames_depths :
    let table (strategy depth : Option String) (name : String) : Option String :=
      if name = multiKeyVariable then strategy
      else if name = maxDepthVariable then depth else none
    ofLookup (table (some " AND\n") (some "+007")) = .ok ⟨.conjunction, 7⟩ ∧
      ofLookup (table none (some "\u3000\t18446744073709551615 ")) =
        .ok ⟨.passthrough, 18446744073709551615⟩ ∧
      ofLookup (table (some "Merge") (some "-1")) = .error (.unknownStrategy "merge") ∧
      ofLookup (table none (some "18446744073709551616x")) = .error (.invalidDepth .tooLarge) ∧
      ofLookup (table none (some " +0 ")) = .error .zeroDepth := by
  intro table
  refine ⟨?_, ?_, ?_, ?_, ?_⟩
  · exact ((ofLookup_accepts_and_blames _).1 _).mpr (by decide +kernel)
  · exact (ofLookup_accepts_and_blames (table none (some "\u3000\t18446744073709551615 "))).2.2
      .passthrough 18446744073709551615 "\u3000\t" " " rfl (by decide) (by decide)
      (List.all_eq_true.mp (by decide)) (List.all_eq_true.mp (by decide)) (by decide +kernel)
  · refine ((ofLookup_accepts_and_blames _).2.1 _).mpr (.inl ⟨fun m => ?_, by decide +kernel⟩)
    cases m <;> decide +kernel
  · exact ((ofLookup_accepts_and_blames _).2.1 _).mpr
      (.inr ⟨⟨.passthrough, rfl⟩, .inr ⟨.tooLarge, .tooLarge (by decide +kernel), rfl⟩⟩)
  · exact ((ofLookup_accepts_and_blames _).2.1 _).mpr
      (.inr ⟨⟨.passthrough, rfl⟩, .inl ⟨by decide +kernel, rfl⟩⟩)

end ParseConfig
end DocFilter

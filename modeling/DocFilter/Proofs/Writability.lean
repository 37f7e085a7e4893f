import DocFilter.Error
import DocFilter.Proofs.Parts
import DocFilter.Proofs.PrefixCode

/-! # When values cannot be written

Keys and the two parts of a regular expression are written up to a zero byte, so U+0000 in one of
them stops the writer.  `Value.terminatedTexts` lists these texts in the order in which they are
written, a key before its value and a pattern before its options.

A computation that writes some of them fails at the first one with U+0000 and at nothing else
(`FailsAtFirst`).  This is kept where the writer does one thing after the other
(`FailsAtFirst.bind`), and so it holds of rows, of members and of all values
(`Value.failsAtFirst_body`).  The texts of a value are those right in it or in a value inside it
(`Value.mem_terminatedTexts_iff`), which tells which values cannot be written and what is blamed
(`Value.encode_eq_error_iff`). -/

namespace DocFilter

/-! ### Texts up to a zero byte -/

def Scalar.terminatedTexts : Scalar → List String
  | regex pattern options => [pattern, sortedText options]
  | _ => []

mutual
/-- The texts that a value writes up to a zero byte, in order. -/
def Value.terminatedTexts : Value → List String
  | .scalar s => s.terminatedTexts
  | .array items => itemTexts items
  | .document members | .scopedCode _ members => memberTexts members

/-- The texts of items.  The numerals that stand for their keys are left out: nothing can be wrong
with them (`hasNul_toString`). -/
def itemTexts : List Value → List String
  | [] => []
  | v :: vs => v.terminatedTexts ++ itemTexts vs

def memberTexts : List (String × Value) → List String
  | [] => []
  | (key, v) :: rest => key :: (v.terminatedTexts ++ memberTexts rest)
end

theorem itemTexts_eq_flatMap (vs : List Value) : itemTexts vs = vs.flatMap Value.terminatedTexts := by
  induction vs with
  | nil => rfl
  | cons v vs ih => rw [itemTexts, ih, List.flatMap_cons]

theorem mem_memberTexts_iff {s : String} {d : Document} :
    s ∈ memberTexts d ↔ s ∈ d.keys ∨ ∃ v ∈ d.values, s ∈ v.terminatedTexts := by
  induction d with
  | nil => simp [memberTexts, Document.keys, Document.values]
  | cons m rest ih =>
      simp only [Document.keys, Document.values] at ih
      simp only [memberTexts, Document.keys, Document.values, List.mem_cons, List.mem_append, ih,
        List.map_cons, exists_eq_or_imp]
      tauto

theorem hasNul_iff {s : String} : hasNul s = true ↔ '\x00' ∈ s.toList :=
  List.contains_iff_mem

theorem hasNul_eq_false_iff {s : String} : hasNul s = false ↔ '\x00' ∉ s.toList := by
  rw [← Bool.not_eq_true, hasNul_iff]

theorem hasNul_toString (n : Nat) : hasNul (toString n) = false := by
  rw [hasNul_eq_false_iff, Nat.toString_eq_repr, Nat.toList_repr]
  intro h
  have hdigit := Nat.isDigit_of_mem_toDigits (by decide) (by decide) h
  revert hdigit
  decide

/-! ### Failing at the first text -/

/-- Whether a computation that writes some texts fails at the first one with U+0000, and only
there. -/
def FailsAtFirst {α : Type} (texts : List String) (r : Except EncodingError α) : Prop :=
  ∀ e, r = .error e ↔ texts.find? hasNul = some e.text

section
variable {α β : Type} {texts others : List String}

theorem failsAtFirst_ok (a : α) : FailsAtFirst [] (.ok a : Except EncodingError α) := by
  intro e
  simp

theorem failsAtFirst_terminated (s : String) : FailsAtFirst [s] (terminated s) := by
  rintro ⟨t⟩
  unfold terminated
  cases h : hasNul s <;> simp [h]

theorem FailsAtFirst.find?_eq_none {a : α} (h : FailsAtFirst texts (.ok a)) :
    texts.find? hasNul = none := by
  rw [Option.eq_none_iff_forall_ne_some]
  intro s hs
  cases (h ⟨s⟩).mpr hs

theorem FailsAtFirst.bind {r : Except EncodingError α} {f : α → Except EncodingError β}
    (hr : FailsAtFirst texts r) (hf : ∀ a, FailsAtFirst others (f a)) :
    FailsAtFirst (texts ++ others) (r >>= f) := by
  intro e
  rw [List.find?_append]
  cases r with
  | error fault =>
      rw [(hr fault).mp rfl]
      obtain ⟨s⟩ := fault
      obtain ⟨t⟩ := e
      simp [Bind.bind, Except.bind]
  | ok a =>
      rw [hr.find?_eq_none, Option.none_or]
      exact hf a e

/-- What is done with the result does not matter. -/
theorem FailsAtFirst.map {r : Except EncodingError α} (h : FailsAtFirst texts r) (f : α → β) :
    FailsAtFirst texts (f <$> r) := by
  intro e
  rw [← h e]
  cases r <;> simp [Functor.map, Except.map]

theorem FailsAtFirst.bind_pure {r : Except EncodingError α} (h : FailsAtFirst texts r) (f : α → β) :
    FailsAtFirst texts (r >>= fun a => pure (f a)) := by
  rw [bind_pure_comp]
  exact h.map f

theorem FailsAtFirst.exists_error_iff {r : Except EncodingError α} (h : FailsAtFirst texts r) :
    (∃ e, r = .error e) ↔ ∃ s ∈ texts, hasNul s = true := by
  rw [← List.find?_isSome, Option.isSome_iff_exists]
  constructor
  · rintro ⟨e, he⟩
    exact ⟨e.text, (h e).mp he⟩
  · rintro ⟨s, hs⟩
    exact ⟨⟨s⟩, (h ⟨s⟩).mpr hs⟩

end

/-! ### Writing values -/

theorem Scalar.failsAtFirst_body (s : Scalar) : FailsAtFirst s.terminatedTexts s.body := by
  cases s with
  | regex pattern options =>
      exact (failsAtFirst_terminated pattern).bind fun _ =>
        (failsAtFirst_terminated (sortedText options)).bind_pure _
  | _ => exact failsAtFirst_ok _

theorem failsAtFirst_encodeItems {vs : List Value}
    (h : ∀ v ∈ vs, FailsAtFirst v.terminatedTexts v.body) (index : Nat) :
    FailsAtFirst (itemTexts vs) (encodeItems index vs) := by
  induction vs generalizing index with
  | nil => exact failsAtFirst_ok _
  | cons v vs ih =>
      have hkey : terminated (toString index) = .ok (utf8 (toString index) ++ [0]) :=
        terminated_eq_ok.mpr ⟨hasNul_toString index, rfl⟩
      have hrest := ih (fun v hv => h v (List.mem_cons_of_mem _ hv)) (index + 1)
      rw [encodeItems, hkey, itemTexts]
      exact (h v List.mem_cons_self).bind fun _ => hrest.bind_pure _

theorem failsAtFirst_encodeMembers {d : Document}
    (h : ∀ v ∈ d.values, FailsAtFirst v.terminatedTexts v.body) :
    FailsAtFirst (memberTexts d) (encodeMembers d) := by
  induction d with
  | nil => exact failsAtFirst_ok _
  | cons m rest ih =>
      obtain ⟨key, v⟩ := m
      have hrest := ih fun v hv => h v (List.mem_cons_of_mem _ hv)
      rw [encodeMembers, memberTexts]
      exact (failsAtFirst_terminated key).bind fun _ =>
        (h v List.mem_cons_self).bind fun _ => hrest.bind_pure _

namespace Value

theorem failsAtFirst_body (v : Value) : FailsAtFirst v.terminatedTexts v.body := by
  induction v using induction_parts with
  | node v ih =>
      cases v with
      | scalar s => exact s.failsAtFirst_body
      | array items => exact (failsAtFirst_encodeItems ih 0).bind_pure _
      | document members => exact (failsAtFirst_encodeMembers ih).bind_pure _
      | scopedCode source scope => exact (failsAtFirst_encodeMembers ih).bind_pure _

theorem failsAtFirst_encode (v : Value) :
    FailsAtFirst v.terminatedTexts (CanonicalBytes.encode v) := by
  rw [canonicalBytes_encode_eq]
  exact v.failsAtFirst_body.map _

theorem writable_iff_texts {v : Value} :
    v.Writable ↔ ∀ s ∈ v.terminatedTexts, hasNul s = false := by
  have herror := v.failsAtFirst_encode.exists_error_iff
  unfold Writable
  cases h : CanonicalBytes.encode v with
  | ok x =>
      simp only [h, reduceCtorEq, exists_false, false_iff] at herror
      simpa using herror
  | error e =>
      simp only [h, Except.error.injEq, exists_eq', true_iff] at herror
      simpa using herror

/-! ### Where the texts stand -/

/-- The texts right in a value that are written up to a zero byte. -/
def ownTexts : Value → List String
  | scalar s => s.terminatedTexts
  | array _ => []
  | document members | scopedCode _ members => Document.keys members

theorem mem_terminatedTexts_iff_parts {s : String} {v : Value} :
    s ∈ v.terminatedTexts ↔ s ∈ v.ownTexts ∨ ∃ w ∈ v.parts, s ∈ w.terminatedTexts := by
  cases v with
  | scalar t => simp [terminatedTexts, ownTexts, parts]
  | array items => simp [terminatedTexts, itemTexts_eq_flatMap, ownTexts, parts]
  | document members => exact mem_memberTexts_iff
  | scopedCode source scope => exact mem_memberTexts_iff

theorem mem_terminatedTexts_iff {s : String} {v : Value} :
    s ∈ v.terminatedTexts ↔ ∃ w : Value, w.Inside v ∧ s ∈ w.ownTexts := by
  induction v using induction_parts with
  | node v ih =>
      rw [mem_terminatedTexts_iff_parts]
      constructor
      · rintro (hown | ⟨u, hu, hs⟩)
        · exact ⟨v, .here, hown⟩
        · obtain ⟨w, hw, hown⟩ := (ih u hu).mp hs
          exact ⟨w, .part hu hw, hown⟩
      · rintro ⟨w, hw, hown⟩
        cases hw with
        | here => exact .inl hown
        | part hu hw => exact .inr ⟨_, hu, (ih _ hu).mpr ⟨w, hw, hown⟩⟩

/-- Whether a value contains U+0000 in a key, or is a regular expression that does. -/
inductive HoldsNul : Value → Prop
  | key {d : Document} {key : String} : key ∈ d.keys → '\x00' ∈ key.toList → HoldsNul (document d)
  | scopeKey {source : String} {d : Document} {key : String} : key ∈ d.keys → '\x00' ∈ key.toList →
      HoldsNul (scopedCode source d)
  | pattern {pattern options : String} : '\x00' ∈ pattern.toList → HoldsNul (regex pattern options)
  | options {pattern options : String} : '\x00' ∈ options.toList → HoldsNul (regex pattern options)

theorem mem_sortedText {c : Char} {s : String} : c ∈ (sortedText s).toList ↔ c ∈ s.toList := by
  rw [sortedText_eq, String.toList_ofList]
  exact (List.perm_insertionSort (· ≤ ·) s.toList).mem_iff

theorem holdsNul_iff {v : Value} : v.HoldsNul ↔ ∃ s ∈ v.ownTexts, '\x00' ∈ s.toList := by
  constructor
  · rintro (⟨hkey, hnul⟩ | ⟨hkey, hnul⟩ | hnul | hnul)
    · exact ⟨_, hkey, hnul⟩
    · exact ⟨_, hkey, hnul⟩
    · exact ⟨_, List.mem_cons_self, hnul⟩
    · exact ⟨_, List.mem_cons_of_mem _ List.mem_cons_self, mem_sortedText.mpr hnul⟩
  · rintro ⟨s, hs, hnul⟩
    cases v with
    | scalar t =>
        cases t with
        | regex pattern options =>
            simp only [ownTexts, Scalar.terminatedTexts, List.mem_cons, List.not_mem_nil,
              or_false] at hs
            rcases hs with rfl | rfl
            · exact .pattern hnul
            · exact .options (mem_sortedText.mp hnul)
        | _ => cases hs
    | array items => cases hs
    | document members => exact .key hs hnul
    | scopedCode source scope => exact .scopeKey hs hnul

theorem message_encoding (s : String) :
    (Error.encoding ⟨s⟩).message =
      "bson encoding error: cstrings cannot contain null bytes: " ++ Text.quoted s := by
  change "bson encoding error: " ++ ("cstrings cannot contain null bytes: " ++ Text.quoted s) = _
  simp only [← String.append_assoc, String.reduceAppend]

/-- A value cannot be written exactly when U+0000 stands, at any depth, in a key or in a part of a
regular expression.  What is blamed is the first such text in the order of writing, whatever stands
behind it. -/
theorem encode_eq_error_iff (v : Value) :
    ((∃ e, CanonicalBytes.encode v = .error e) ↔ ∃ w : Value, w.Inside v ∧ w.HoldsNul) ∧
    ∀ e, CanonicalBytes.encode v = .error e ↔
      ∃ before s after, v.terminatedTexts = before ++ s :: after ∧
        (∀ t ∈ before, '\x00' ∉ t.toList) ∧ '\x00' ∈ s.toList ∧ e = ⟨s⟩ ∧
        (Error.encoding e).message =
          "bson encoding error: cstrings cannot contain null bytes: " ++ Text.quoted s := by
  have hfails := v.failsAtFirst_encode
  constructor
  · rw [hfails.exists_error_iff]
    simp only [mem_terminatedTexts_iff, holdsNul_iff, hasNul_iff]
    constructor
    · rintro ⟨s, ⟨w, hw, hs⟩, hnul⟩
      exact ⟨w, hw, s, hs, hnul⟩
    · rintro ⟨w, hw, s, hs, hnul⟩
      exact ⟨s, ⟨w, hw, hs⟩, hnul⟩
  · rintro ⟨blamed⟩
    rw [hfails ⟨blamed⟩, List.find?_eq_some_iff_append]
    simp only [hasNul_iff, Bool.not_eq_true', hasNul_eq_false_iff]
    constructor
    · rintro ⟨hnul, before, after, htexts, hbefore⟩
      exact ⟨before, blamed, after, htexts, hbefore, hnul, rfl, message_encoding blamed⟩
    · rintro ⟨before, s, after, htexts, hbefore, hnul, hblamed, _⟩
      obtain rfl : blamed = s := EncodingError.mk.inj hblamed
      exact ⟨hnul, before, after, htexts, hbefore⟩

/-- The options are named as they are written, and strings may contain U+0000. -/
example : CanonicalBytes.encode (document [("s", string "\x00"), ("a", array [regex "p" "x\x00i"]),
    ("k\x00", null)]) = .error ⟨"\x00ix"⟩ := by rfl

end Value
end DocFilter

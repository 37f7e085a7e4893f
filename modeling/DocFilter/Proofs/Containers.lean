import DocFilter.Value.Canonical
import DocFilter.Value.Document
import Mathlib.Data.List.Forall2

/-! # The bytes of containers

A container is written from its keys and the bytes of the values in it, so that values which are
written alike can take each other's place (`encode_array_congr` and its companions), and what can be
written has parts that can be written (`Value.writable_of_mem_parts`).  An array is written as the
document of its numbered items (`encodeItems_eq`).

Statements about a value that rest on the same statements about its parts are proved by
`induction_parts`, those about bytes that were written by `encodeMembers_cons_eq_ok`. -/

namespace DocFilter

/-! ### Parts -/

namespace Value

/-- The values right inside a value. -/
def parts : Value → List Value
  | scalar _ => []
  | array items => items
  | document members | scopedCode _ members => Document.values members

theorem sizeOf_lt_of_mem_values {d : Document} {v : Value} (h : v ∈ Document.values d) :
    sizeOf v < sizeOf d := by
  obtain ⟨⟨key, v⟩, hm, rfl⟩ := List.mem_map.mp h
  have := List.sizeOf_lt_of_mem hm
  rw [Prod.mk.sizeOf_spec] at this
  dsimp only
  omega

theorem sizeOf_lt_of_mem_parts {v w : Value} (h : w ∈ v.parts) : sizeOf w < sizeOf v := by
  cases v with
  | scalar s => cases h
  | array items =>
      have := List.sizeOf_lt_of_mem (show w ∈ items from h)
      rw [array.sizeOf_spec]
      omega
  | document members =>
      have := sizeOf_lt_of_mem_values h
      rw [document.sizeOf_spec]
      omega
  | scopedCode source members =>
      have := sizeOf_lt_of_mem_values h
      rw [scopedCode.sizeOf_spec]
      omega

/-- What passes from the parts of every value to the value holds of all values. -/
@[elab_as_elim]
theorem induction_parts {P : Value → Prop} (node : ∀ v, (∀ w ∈ v.parts, P w) → P v) (v : Value) :
    P v :=
  node v fun w hw =>
    have := sizeOf_lt_of_mem_parts hw
    induction_parts node w
termination_by sizeOf v

end Value

theorem forall₂_imp_of_mem {α β : Type} {R S : α → β → Prop} {as : List α} {bs : List β}
    (himp : ∀ a ∈ as, ∀ {b}, R a b → S a b) (h : List.Forall₂ R as bs) : List.Forall₂ S as bs :=
  ((List.forall₂_and_left _ _).mpr ⟨himp, h⟩).imp fun _ _ hab => hab.1 hab.2

/-- Documents with the same keys in the same order and with related values at them. -/
abbrev Document.Pointwise (R : Value → Value → Prop) (d e : Document) : Prop :=
  List.Forall₂ (fun m n => m.1 = n.1 ∧ R m.2 n.2) d e

theorem Document.pointwise_iff {R : Value → Value → Prop} {d e : Document} :
    d.Pointwise R e ↔ d.keys = e.keys ∧ List.Forall₂ R d.values e.values := by
  induction d generalizing e with
  | nil => cases e <;> simp [Pointwise, keys, values]
  | cons m d ih =>
      cases e with
      | nil => simp [Pointwise, keys, values]
      | cons n e =>
          simp only [Pointwise, keys, values, List.map_cons, List.cons.injEq] at ih ⊢
          rw [List.forall₂_cons, List.forall₂_cons, ih]
          tauto

theorem Document.eq_of_pointwise {d e : Document} (h : d.Pointwise Eq e) : d = e := by
  rw [← List.forall₂_eq_eq_eq]
  exact h.imp fun _ _ hmn => Prod.ext hmn.1 hmn.2

theorem Document.pointwise_one {R : Value → Value → Prop} (key : String) {v w : Value} (h : R v w) :
    Pointwise R [(key, v)] [(key, w)] :=
  .cons ⟨rfl, h⟩ .nil

/-! ### Successful writing -/

theorem Encoded.bind_eq_ok {α β : Type} {e : Except EncodingError α}
    {f : α → Except EncodingError β} {b : β} :
    (e >>= f) = .ok b ↔ ∃ a, e = .ok a ∧ f a = .ok b := by
  cases e with
  | error e => simp [bind, Except.bind]
  | ok a => simp [bind, Except.bind]

theorem Encoded.pure_eq_ok {α : Type} {a b : α} :
    (pure a : Except EncodingError α) = .ok b ↔ a = b := by
  simp [pure, Except.pure]

theorem terminated_eq_ok {s : String} {x : List UInt8} :
    terminated s = .ok x ↔ hasNul s = false ∧ utf8 s ++ [0] = x := by
  unfold terminated
  cases hasNul s <;> simp

theorem encodeMembers_nil_eq_ok {x : List UInt8} : encodeMembers [] = .ok x ↔ x = [] := by
  rw [encodeMembers, Except.ok.injEq, eq_comm]

theorem encodeMembers_cons_eq_ok {key : String} {value : Value} {rest : Document} {x : List UInt8} :
    encodeMembers ((key, value) :: rest) = .ok x ↔
      ∃ body others, hasNul key = false ∧ value.body = .ok body ∧ encodeMembers rest = .ok others ∧
        value.tag :: (utf8 key ++ 0 :: (body ++ others)) = x := by
  simp only [encodeMembers, Encoded.bind_eq_ok, Encoded.pure_eq_ok, terminated_eq_ok]
  constructor
  · rintro ⟨_, ⟨hkey, rfl⟩, body, hbody, others, hothers, rfl⟩
    exact ⟨body, others, hkey, hbody, hothers, by simp⟩
  · rintro ⟨body, others, hkey, hbody, hothers, rfl⟩
    exact ⟨_, ⟨hkey, rfl⟩, body, hbody, others, hothers, by simp⟩

namespace Value

theorem canonicalBytes_encode_eq (v : Value) :
    CanonicalBytes.encode v = (fun body => ⟨v.tag :: body⟩) <$> v.body := by
  rw [CanonicalBytes.encode, encode_eq]
  cases v.body <;> rfl

theorem encode_eq_ok {v : Value} {x : CanonicalBytes} :
    CanonicalBytes.encode v = .ok x ↔ ∃ body, v.body = .ok body ∧ x = ⟨v.tag :: body⟩ := by
  rw [canonicalBytes_encode_eq]
  cases v.body <;> simp [Functor.map, Except.map, eq_comm]

end Value

/-! ### Arrays as documents -/

/-- The items of an array as members, under the numerals from `index` on. -/
def numbered (index : Nat) : List Value → Document
  | [] => []
  | v :: vs => (toString index, v) :: numbered (index + 1) vs

theorem values_numbered (index : Nat) (vs : List Value) : (numbered index vs).values = vs := by
  induction vs generalizing index with
  | nil => rfl
  | cons v vs ih => exact congrArg (v :: ·) (ih (index + 1))

theorem encodeItems_eq (index : Nat) (vs : List Value) :
    encodeItems index vs = encodeMembers (numbered index vs) := by
  induction vs generalizing index with
  | nil => rw [encodeItems, numbered, encodeMembers]
  | cons v vs ih => rw [encodeItems, numbered, encodeMembers, ih]

theorem pointwise_numbered {R : Value → Value → Prop} {vs ws : List Value}
    (h : List.Forall₂ R vs ws) (index : Nat) :
    Document.Pointwise R (numbered index vs) (numbered index ws) := by
  induction h generalizing index with
  | nil => exact .nil
  | cons hvw _ ih => exact .cons ⟨rfl, hvw⟩ (ih (index + 1))

namespace Value

theorem body_array_eq_ok {vs : List Value} {x : List UInt8} :
    (array vs).body = .ok x ↔ ∃ members, encodeMembers (numbered 0 vs) = .ok members ∧
      framed members = x := by
  simp only [body, Encoded.bind_eq_ok, Encoded.pure_eq_ok, encodeItems_eq]

theorem body_document_eq_ok {d : Document} {x : List UInt8} :
    (document d).body = .ok x ↔ ∃ members, encodeMembers d = .ok members ∧ framed members = x := by
  simp only [body, Encoded.bind_eq_ok, Encoded.pure_eq_ok]

theorem body_scopedCode_eq_ok {source : String} {d : Document} {x : List UInt8} :
    (scopedCode source d).body = .ok x ↔ ∃ members, encodeMembers d = .ok members ∧
      littleEndian 4 ((sized source ++ framed members).length + 4) ++
        (sized source ++ framed members) = x := by
  simp only [body, Encoded.bind_eq_ok, Encoded.pure_eq_ok]

end Value

/-! ### Values that can be written -/

/-- Whether a value can be written. -/
def Value.Writable (v : Value) : Prop := ∃ x, CanonicalBytes.encode v = .ok x

instance (v : Value) : Decidable v.Writable :=
  match h : CanonicalBytes.encode v with
  | .ok x => isTrue ⟨x, h⟩
  | .error _ => isFalse (by simp [Value.Writable, h])

theorem Value.writable_iff {v : Value} : v.Writable ↔ ∃ body, v.body = .ok body := by
  constructor
  · rintro ⟨x, hx⟩
    obtain ⟨body, hbody, _⟩ := encode_eq_ok.mp hx
    exact ⟨body, hbody⟩
  · rintro ⟨body, hbody⟩
    exact ⟨_, encode_eq_ok.mpr ⟨body, hbody, rfl⟩⟩

theorem writable_of_mem_values {d : Document} {x : List UInt8} (h : encodeMembers d = .ok x) :
    ∀ v ∈ d.values, v.Writable := by
  induction d generalizing x with
  | nil => exact fun v hv => absurd hv List.not_mem_nil
  | cons m d ih =>
      obtain ⟨key, w⟩ := m
      obtain ⟨body, others, _, hbody, hothers, _⟩ := encodeMembers_cons_eq_ok.mp h
      intro v hv
      rcases List.mem_cons.mp hv with rfl | hv
      · exact Value.writable_iff.mpr ⟨body, hbody⟩
      · exact ih hothers v hv

/-- What can be written has parts that can be written. -/
theorem Value.writable_of_mem_parts {v : Value} (h : v.Writable) : ∀ w ∈ v.parts, w.Writable := by
  obtain ⟨body, hbody⟩ := writable_iff.mp h
  cases v with
  | scalar s => exact fun w hw => absurd hw List.not_mem_nil
  | array items =>
      obtain ⟨bytes, hbytes, _⟩ := body_array_eq_ok.mp hbody
      have := writable_of_mem_values hbytes
      rwa [values_numbered] at this
  | document members =>
      obtain ⟨bytes, hbytes, _⟩ := body_document_eq_ok.mp hbody
      exact writable_of_mem_values hbytes
  | scopedCode source members =>
      obtain ⟨bytes, hbytes, _⟩ := body_scopedCode_eq_ok.mp hbody
      exact writable_of_mem_values hbytes

/-! ### Writing parts that are written alike -/

/-- Values that are written with the same bytes, or fail to be written for the same reason. -/
abbrev Value.SameEncoding (v w : Value) : Prop :=
  CanonicalBytes.encode v = CanonicalBytes.encode w

theorem Value.SameEncoding.body_eq {v w : Value} (h : v.SameEncoding w) : v.body = w.body := by
  rw [SameEncoding, canonicalBytes_encode_eq, canonicalBytes_encode_eq] at h
  cases hv : v.body <;> cases hw : w.body <;> simp_all [Functor.map, Except.map]

/-- Type bytes are compared only where there is a body to put them before. -/
theorem Value.SameEncoding.tag_eq {v w : Value} (h : v.SameEncoding w) {x : List UInt8}
    (hx : v.body = .ok x) : v.tag = w.tag := by
  have hw : w.body = .ok x := h.body_eq ▸ hx
  rw [SameEncoding, canonicalBytes_encode_eq, canonicalBytes_encode_eq, hx, hw] at h
  simpa [Functor.map, Except.map] using h

theorem Value.sameEncoding_of_body_eq {v w : Value} (ht : v.tag = w.tag) (hb : v.body = w.body) :
    v.SameEncoding w := by
  rw [SameEncoding, canonicalBytes_encode_eq, canonicalBytes_encode_eq, ht, hb]

/-- Values that are written alike are equal unless equality falls back to their parts. -/
theorem Value.equal_iff_of_sameEncoding {v w : Value} (h : v.SameEncoding w) :
    v.equal w = true ↔ v.Writable ∨ v = w := by
  unfold equal Writable
  rw [← h]
  cases CanonicalBytes.encode v <;> simp

theorem Value.sameEncoding_of_equal {v w : Value} (h : v.equal w = true) : v.SameEncoding w := by
  unfold equal at h
  split at h
  · next x y hv hw => rw [SameEncoding, hv, hw, eq_of_beq h]
  · rw [eq_of_beq h]

theorem encodeMembers_congr {d e : Document} (h : d.Pointwise Value.SameEncoding e) :
    encodeMembers d = encodeMembers e := by
  induction h with
  | nil => rfl
  | @cons m n d e hmn _ ih =>
      obtain ⟨key, v⟩ := m
      obtain ⟨key', w⟩ := n
      obtain ⟨rfl, hvw⟩ : key = key' ∧ v.SameEncoding w := hmn
      rw [encodeMembers, encodeMembers, ← hvw.body_eq, ih]
      cases hb : v.body with
      | error e => rfl
      | ok body => rw [hvw.tag_eq hb]

namespace Value

theorem encode_array_congr {vs ws : List Value} (h : List.Forall₂ SameEncoding vs ws) :
    SameEncoding (array vs) (array ws) :=
  sameEncoding_of_body_eq rfl (by
    rw [body, body, encodeItems_eq, encodeItems_eq, encodeMembers_congr (pointwise_numbered h 0)])

theorem encode_document_congr {d e : Document} (h : d.Pointwise SameEncoding e) :
    SameEncoding (document d) (document e) :=
  sameEncoding_of_body_eq rfl (by rw [body, body, encodeMembers_congr h])

theorem encode_scopedCode_congr (source : String) {d e : Document}
    (h : d.Pointwise SameEncoding e) : SameEncoding (scopedCode source d) (scopedCode source e) :=
  sameEncoding_of_body_eq rfl (by rw [body, body, encodeMembers_congr h])

end Value
end DocFilter

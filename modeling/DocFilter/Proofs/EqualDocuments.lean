import DocFilter.Proofs.Compiled
import DocFilter.Proofs.Equivalence
import DocFilter.Proofs.PrefixCode

/-! # Documents of equal filters

Equality of filters compares every value on its own, equality of documents the bytes of the whole.
The documents of equal filters are put together in the same way around values that are equal, so
that whatever relation holds between equal values, and is taken over by arrays and documents, holds
between the documents (`compile_pointwise`).  Being written with the same bytes is such a
relation, and so is being the same up to the order of options.

Hence the documents of equal filters are equal when they can be written.  When they cannot, because
a key or a pattern has U+0000 in it, equality looks at all their parts, and there the options of a
regular expression may stand in another order (`not_forall_equal_toDocument`); nothing else can make
the documents differ (`equal_toDocument_iff`). -/

namespace DocFilter

/-! ### Relations that pass from parts to wholes -/

/-- A relation of values that arrays and documents take over from what is in them. -/
structure Value.Congruence (R : Value → Value → Prop) : Prop where
  refl : ∀ v, R v v
  array : ∀ {vs ws : List Value}, List.Forall₂ R vs ws → R (.array vs) (.array ws)
  document : ∀ {d e : Document}, d.Pointwise R e → R (.document d) (.document e)

namespace Value

theorem congruence_sameEncoding : Congruence SameEncoding where
  refl _ := rfl
  array := encode_array_congr
  document := encode_document_congr

theorem congruence_alike : Congruence Alike where
  refl := .refl
  array := .array
  document h :=
    have ⟨hkeys, hvalues⟩ := Document.pointwise_iff.mp h
    .document hkeys hvalues

end Value

namespace Filter

/-- The values that equality compares at a node. -/
def payload : Filter → List Value
  | compare _ _ value => [value]
  | isIn _ values => values
  | near _ _ center _ _ => [.document (Geometry.point center).toDocument]
  | within _ area => [.document (Geometry.polygon area).toDocument]
  | intersects _ geometry => [.document geometry.toDocument]
  | _ => []

section
variable {R : Value → Value → Prop} (hR : Value.Congruence R)
include hR

theorem pointwise_refl (d : Document) : d.Pointwise R d :=
  List.forall₂_same.mpr fun m _ => ⟨rfl, hR.refl m.2⟩

theorem pointwise_clause (key op : String) {v w : Value} (h : R v w) :
    (clause key op v).Pointwise R (clause key op w) :=
  Document.pointwise_one key (hR.document (Document.pointwise_one op h))

theorem pointwise_geometry (op : GeoOperator) (key : String) {g h : Geometry}
    (hgh : R (.document g.toDocument) (.document h.toDocument)) (max min : Option Double) :
    (op.clause key g max min).Pointwise R (op.clause key h max min) := by
  refine Document.pointwise_one key (hR.document (Document.pointwise_one op.keyword (hR.document ?_)))
  exact .cons ⟨rfl, hgh⟩ (pointwise_refl hR _)

theorem pointwise_negated {d e : Document} (h : d.Pointwise R e) :
    (negated d).Pointwise R (negated e) := by
  refine List.rel_map ?_ h
  rintro ⟨key, v⟩ ⟨_, w⟩ ⟨rfl, hvw⟩
  exact ⟨rfl, hR.document (Document.pointwise_one "$not" hvw)⟩

/-- The documents of equal filters are related when equal values are. -/
theorem compile_pointwise {f g : Filter} (hraw : EveryNode (fun _ h => ¬ h.isRaw) f)
    (hpayload : EveryNode (fun _ h => ∀ v ∈ h.payload, ∀ w, v.equal w = true → R v w) f)
    (h : f.same g = true) : f.compile.Pointwise R g.compile := by
  induction f using induction_children generalizing g with
  | node f ih =>
      rw [everyNode_iff] at hraw hpayload
      obtain ⟨hraw, hrawBelow⟩ := hraw
      obtain ⟨hpayload, hpayloadBelow⟩ := hpayload
      cases f <;> cases g <;> first | (simp [same] at h; done) | skip
      case nothing.nothing => exact pointwise_refl hR _
      case typeIs.typeIs key s key' t =>
        simp only [same, Bool.and_eq_true, beq_iff_eq] at h
        obtain ⟨rfl, rfl⟩ := h
        exact pointwise_refl hR _
      case compare.compare op key v op' key' w =>
        simp only [same, Bool.and_eq_true, beq_iff_eq] at h
        obtain ⟨⟨rfl, rfl⟩, hvw⟩ := h
        rw [compile, compile]
        exact pointwise_clause hR key op.keyword (hpayload v (by simp [payload]) w hvw)
      case elemMatch.elemMatch key f key' g =>
        simp only [same, Bool.and_eq_true, beq_iff_eq] at h
        obtain ⟨rfl, hfg⟩ := h
        have hf : f ∈ (elemMatch key f).children := by simp [children]
        rw [compile, compile]
        exact pointwise_clause hR key "$elemMatch"
          (hR.document (ih f hf (hrawBelow f hf) (hpayloadBelow f hf) hfg))
      case group.group c fs c' gs =>
        simp only [same, Bool.and_eq_true, beq_iff_eq, allSame_iff] at h
        obtain ⟨rfl, hall⟩ := h
        have hdocuments : List.Forall₂ (fun f g => R (.document f.compile) (.document g.compile))
            fs gs :=
          forall₂_imp_of_mem (fun f hf {g} hfg =>
            hR.document (ih f hf (hrawBelow f hf) (hpayloadBelow f hf) hfg)) hall
        rw [compile, compile, compileAll_eq_map, compileAll_eq_map]
        refine Document.pointwise_one c.keyword (hR.array (List.rel_map ?_ hdocuments))
        exact fun _ _ hfg => hfg
      case not.not f g =>
        rw [same] at h
        have hf : f ∈ (not f).children := by simp [children]
        rw [compile, compile]
        exact pointwise_negated hR (ih f hf (hrawBelow f hf) (hpayloadBelow f hf) h)
      case matching.matching anchor key pattern options anchor' key' pattern' options' =>
        simp only [same, Bool.and_eq_true, beq_iff_eq] at h
        obtain ⟨⟨⟨rfl, rfl⟩, rfl⟩, hoptions⟩ := h
        rw [compile, compile, hoptions]
        exact pointwise_refl hR _
      case raw.raw d e => simp [isRaw] at hraw
      case present.present key b key' c =>
        simp only [same, Bool.and_eq_true, beq_iff_eq] at h
        obtain ⟨rfl, rfl⟩ := h
        exact pointwise_refl hR _
      case isIn.isIn key vs key' ws =>
        simp only [same, Bool.and_eq_true, beq_iff_eq, allEqual_iff_forall₂] at h
        obtain ⟨rfl, hall⟩ := h
        rw [compile, compile]
        exact pointwise_clause hR key "$in"
          (hR.array (forall₂_imp_of_mem (fun v hv {w} => hpayload v hv w) hall))
      case near.near metric key p max min metric' key' q max' min' =>
        simp only [same, Bool.and_eq_true, beq_iff_eq] at h
        obtain ⟨⟨⟨⟨rfl, rfl⟩, hpq⟩, rfl⟩, rfl⟩ := h
        rw [compile, compile]
        exact pointwise_geometry hR _ key (hpayload _ (by simp [payload]) _ hpq) max min
      case within.within key p key' q =>
        simp only [same, Bool.and_eq_true, beq_iff_eq] at h
        obtain ⟨rfl, hpq⟩ := h
        rw [compile, compile]
        exact pointwise_geometry hR _ key (hpayload _ (by simp [payload]) _ hpq) none none
      case intersects.intersects key g key' g' =>
        simp only [same, Bool.and_eq_true, beq_iff_eq] at h
        obtain ⟨rfl, hgg⟩ := h
        rw [compile, compile]
        exact pointwise_geometry hR _ key (hpayload _ (by simp [payload]) _ hgg) none none

end

/-- The documents of equal filters without raw nodes are written with the same bytes, or neither is.
They are equal exactly when they can be written or agree in every part, and the order of options is
all in which they may not agree. -/
theorem equal_toDocument_iff (f g : Filter) (hraw : EveryNode (fun _ h => ¬ h.isRaw) f)
    (h : f.same g = true) :
    (Value.document f.toDocument).SameEncoding (.document g.toDocument) ∧
    ((Value.document f.toDocument).equal (.document g.toDocument) = true ↔
      (Value.document f.toDocument).Writable ∨ f.toDocument = g.toDocument) ∧
    (EveryNode (fun _ h => ∀ v ∈ h.payload, v.FitsLengths) f →
      (Value.document f.toDocument).Alike (.document g.toDocument)) := by
  have hencoding : (Value.document f.toDocument).SameEncoding (.document g.toDocument) :=
    Value.encode_document_congr (compile_pointwise Value.congruence_sameEncoding hraw
      (fun _ _ _ _ _ _ => Value.sameEncoding_of_equal) h)
  refine ⟨hencoding, ?_, fun hfits => ?_⟩
  · rw [Value.equal_iff_of_sameEncoding hencoding, Value.document.injEq]
  · exact Value.congruence_alike.document (compile_pointwise Value.congruence_alike hraw
      (fun i k hk v hv _ => Value.alike_of_equal (hfits i k hk v hv)) h)

/-- Options in another order under a key that cannot be written. -/
theorem equal_toDocument_iff_unwritable :
    let f (options : String) : Filter :=
      not (elemMatch "a\x00" (group .or [isIn "b" [.null, .regex "p" options], present "c" true]))
    EveryNode (fun _ h => ¬ h.isRaw) (f "ix") ∧ (f "ix").same (f "xi") = true ∧
      EveryNode (fun _ h => ∀ v ∈ h.payload, v.FitsLengths) (f "ix") ∧
      (Value.document (f "ix").toDocument).SameEncoding (.document (f "xi").toDocument) ∧
      (Value.document (f "ix").toDocument).equal (.document (f "xi").toDocument) = false ∧
      (Value.document (f "ix").toDocument).Alike (.document (f "xi").toDocument) := by
  intro f
  have hraw : EveryNode (fun _ h => ¬ h.isRaw) (f "ix") := by decide
  have hsame : (f "ix").same (f "xi") = true := by decide +kernel
  have hfits : EveryNode (fun _ h => ∀ v ∈ h.payload, v.FitsLengths) (f "ix") := by decide +kernel
  obtain ⟨hencoding, hequal, halike⟩ := equal_toDocument_iff (f "ix") (f "xi") hraw hsame
  refine ⟨hraw, hsame, hfits, hencoding, ?_, halike hfits⟩
  rw [← Bool.not_eq_true, hequal]
  rintro (hwritable | heq)
  · revert hwritable
    decide +kernel
  · revert heq
    decide +kernel

/-- Options in another order at a key with U+0000. -/
theorem not_forall_equal_toDocument : ¬ ∀ f g : Filter, EveryNode (fun _ h => ¬ h.isRaw) f →
    EveryNode (fun _ h => ¬ h.isRaw) g → f.same g = true →
    (Value.document f.toDocument).equal (.document g.toDocument) = true := by
  intro h
  have := h (compare .eq "a\x00" (.regex "p" "ix")) (compare .eq "a\x00" (.regex "p" "xi"))
    (by decide) (by decide) (by decide +kernel)
  revert this
  decide +kernel

end Filter
end DocFilter

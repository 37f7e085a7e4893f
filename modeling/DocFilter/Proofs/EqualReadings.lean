import DocFilter.Proofs.Equivalence
import DocFilter.Proofs.ListShape
import DocFilter.Proofs.Reading

/-! # Reading equal documents

Documents that are equal are written with the same bytes, unless they cannot be written and are the
same.  Bytes that can be read back make the values in the two documents pairs of twins: they are the
same up to the order of options and can be written, with all that is in them (`Value.Twin`).

The reader looks at a value as a document, as a list or as one operator, and twins look alike in all
three ways (`asDocument?_twin`, `listItems?_twin`, `singleOperator?_twin`).  So it takes the same
turn on both sides at every level (`Shape.of_twin`), and where it stops it keeps twins, which are
equal on their own.  Hence equal documents state the same filter
(`Filter.same_ofDocument_of_equal`), unless lengths wrap around in their bytes
(`Filter.not_forall_same_ofDocument_of_equal`). -/

namespace DocFilter

/-! ### Twins -/

namespace Value

/-- Values that are the same up to the order of options and can be written. -/
def Twin (v w : Value) : Prop := v.Alike w ∧ v.Writable

theorem Twin.equal {v w : Value} (h : v.Twin w) : v.equal w = true :=
  (equal_iff_of_sameEncoding h.1.sameEncoding).mpr (.inl h.2)

theorem twin_parts {v : Value} {ws : List Value} (hv : v.Writable)
    (h : List.Forall₂ Alike v.parts ws) : List.Forall₂ Twin v.parts ws :=
  forall₂_imp_of_mem (fun w hw {_} halike => ⟨halike, writable_of_mem_parts hv w hw⟩) h

theorem twin_array {vs : List Value} {w : Value} (h : (array vs).Twin w) :
    ∃ ws, w = array ws ∧ List.Forall₂ Twin vs ws := by
  obtain ⟨halike, hwritable⟩ := h
  cases halike with
  | array hitems => exact ⟨_, rfl, twin_parts hwritable hitems⟩

theorem twin_document {d : Document} {w : Value} (h : (document d).Twin w) :
    ∃ e, w = document e ∧ d.Pointwise Twin e := by
  obtain ⟨halike, hwritable⟩ := h
  cases halike with
  | document hkeys hvalues =>
      exact ⟨_, rfl, Document.pointwise_iff.mpr ⟨hkeys, twin_parts hwritable hvalues⟩⟩

/-! ### The three views of a value -/

theorem asDocument?_twin {v w : Value} (h : v.Twin w) :
    Option.Rel (Document.Pointwise Twin) v.asDocument? w.asDocument? := by
  cases v with
  | document d =>
      obtain ⟨e, rfl, hde⟩ := twin_document h
      exact .some hde
  | _ =>
      cases h.1
      exact .none

theorem listItems?_twin {v w : Value} (h : v.Twin w) :
    Option.Rel (List.Forall₂ Twin) v.listItems? w.listItems? := by
  cases v with
  | array vs =>
      obtain ⟨ws, rfl, hitems⟩ := twin_array h
      exact .some hitems
  | document d =>
      obtain ⟨e, rfl, hde⟩ := twin_document h
      obtain ⟨hkeys, hvalues⟩ := Document.pointwise_iff.mp hde
      have hshape : Document.isListShaped d = Document.isListShaped e :=
        Document.countsFrom_congr hkeys 0
      rw [listItems?, listItems?, Document.asList?, Document.asList?, hshape]
      split
      · exact .some hvalues
      · exact .none
  | _ =>
      cases h.1
      exact .none

theorem mapM_asDocument?_twin {vs ws : List Value} (h : List.Forall₂ Twin vs ws) :
    Option.Rel (List.Forall₂ (Document.Pointwise Twin)) (vs.mapM asDocument?)
      (ws.mapM asDocument?) := by
  induction h with
  | nil => exact .some .nil
  | @cons v w vs ws hvw _ ih =>
      have hfirst := asDocument?_twin hvw
      rw [List.mapM_cons, List.mapM_cons]
      generalize v.asDocument? = a, w.asDocument? = b at hfirst
      generalize vs.mapM asDocument? = as, ws.mapM asDocument? = bs at ih
      cases hfirst with
      | none => exact .none
      | some hde =>
          cases ih with
          | none => exact .none
          | some hrest => exact .some (.cons hde hrest)

theorem documentItems?_twin {v w : Value} (h : v.Twin w) :
    Option.Rel (List.Forall₂ (Document.Pointwise Twin)) v.documentItems? w.documentItems? := by
  have hitems := listItems?_twin h
  unfold documentItems?
  generalize v.listItems? = a, w.listItems? = b at hitems
  cases hitems with
  | none => exact .none
  | some hall => exact mapM_asDocument?_twin hall

theorem singleOperator?_twin {v w : Value} (h : v.Twin w) :
    Option.Rel (fun p q => p.1 = q.1 ∧ p.2.Twin q.2) v.singleOperator? w.singleOperator? := by
  have hdocument := asDocument?_twin h
  unfold singleOperator?
  generalize v.asDocument? = a, w.asDocument? = b at hdocument
  cases hdocument with
  | none => exact .none
  | some hde =>
      cases hde with
      | nil => exact .none
      | cons hmn hrest =>
          cases hrest with
          | nil => exact .some hmn
          | cons _ _ => exact .none

end Value

/-! ### Shapes of twins -/

namespace Shape

/-- Shapes of one kind that hold twins. -/
inductive Twin : Shape → Shape → Prop
  | logical (c : Connective) {ds es : List Document} :
      List.Forall₂ (Document.Pointwise Value.Twin) ds es → Twin (logical c ds) (logical c es)
  | comparison (op : Comparison) {v w : Value} :
      v.Twin w → Twin (comparison op v) (comparison op w)
  | membership {vs ws : List Value} :
      List.Forall₂ Value.Twin vs ws → Twin (membership vs) (membership ws)
  | elemMatch {d e : Document} : d.Pointwise Value.Twin e → Twin (elemMatch d) (elemMatch e)
  | unknown : Twin unknown unknown

theorem ofOperator_twin (op : String) {v w : Value} (h : v.Twin w) :
    (ofOperator op v).Twin (ofOperator op w) := by
  have hitems := Value.listItems?_twin h
  have hdocument := Value.asDocument?_twin h
  unfold ofOperator
  generalize v.listItems? = a, w.listItems? = b at hitems
  generalize v.asDocument? = a', w.asDocument? = b' at hdocument
  split
  · exact .comparison _ h
  · split
    · cases hitems with
      | none => exact .unknown
      | some hall => exact .membership hall
    · split
      · cases hdocument with
        | none => exact .unknown
        | some hde => exact .elemMatch hde
      · exact .unknown

theorem ofValue_twin {v w : Value} (h : v.Twin w) : (ofValue v).Twin (ofValue w) := by
  have hoperator := Value.singleOperator?_twin h
  unfold ofValue
  generalize v.singleOperator? = a, w.singleOperator? = b at hoperator
  cases hoperator with
  | none => exact .unknown
  | @some p q hpq =>
      obtain ⟨hname, hoperand⟩ := hpq
      dsimp only
      rw [hname]
      exact ofOperator_twin q.1 hoperand

theorem of_twin (key : String) {v w : Value} (h : v.Twin w) : (of key v).Twin (of key w) := by
  have hitems := Value.documentItems?_twin h
  unfold of
  generalize v.documentItems? = a, w.documentItems? = b at hitems
  cases Connective.ofKeyword? key with
  | none => exact ofValue_twin h
  | some c =>
      cases hitems with
      | none => exact ofValue_twin h
      | some hall => exact .logical c hall

end Shape

/-! ### Filters of twins -/

namespace Filter

theorem same_raw_of_pointwise {d e : Document} (h : d.Pointwise Value.Twin e) :
    (raw d).same (raw e) = true := by
  rw [same, Document.sameMembers_iff]
  induction h with
  | nil => rfl
  | @cons m n d e hmn _ ih =>
      obtain ⟨key, v⟩ := m
      obtain ⟨key', w⟩ := n
      obtain ⟨rfl, hvw⟩ : key = key' ∧ v.Twin w := hmn
      exact (Document.identities_cons_eq_iff key v w d e).mpr
        ⟨(Value.equal_iff v w).mp hvw.equal, ih⟩

section
variable {read : Document → Filter}
  (hread : ∀ {d e : Document}, d.Pointwise Value.Twin e → (read d).same (read e) = true)
include hread

/-- Members of twin shapes are read alike when the documents inside are. -/
theorem same_ofShape_of_twin (key : String) {v w : Value} (hvw : v.Twin w) {s t : Shape}
    (h : s.Twin t) : (ofShape read (key, v) s).same (ofShape read (key, w) t) = true := by
  cases h with
  | logical c hall =>
      rw [ofShape, ofShape, same, beq_self_eq_true, Bool.true_and, allSame_iff]
      refine List.rel_map ?_ hall
      intro d e hde
      exact hread hde
  | comparison op hoperand => simp [ofShape, same, hoperand.equal]
  | membership hall =>
      simpa [ofShape, same, allEqual_iff_forall₂] using hall.imp fun _ _ => Value.Twin.equal
  | elemMatch hde => simp [ofShape, same, hread hde]
  | unknown => exact same_raw_of_pointwise (Document.pointwise_one key hvw)

end

section
variable (multiKey : MultiKey)

/-- Whether members of one key with twins as values state equal filters with this many levels
left. -/
def ReadsTwins (levels : Nat) : Prop :=
  ∀ (key : String) {v w : Value}, v.Twin w →
    (readDocument multiKey levels [(key, v)]).same (readDocument multiKey levels [(key, w)]) = true

/-- A document is read through its only member, or through all of them one level further down. -/
theorem same_readDocument_of_readsTwins {levels : Nat} (honly : ReadsTwins multiKey levels)
    (hinner : ReadsTwins multiKey (levels - 1)) {d e : Document} (h : d.Pointwise Value.Twin e) :
    (readDocument multiKey levels d).same (readDocument multiKey levels e) = true := by
  have hlength : d.length = e.length := h.length_eq
  induction d using Document.cases_members with
  | empty =>
      cases h with
      | nil => exact same_self _
  | single key v =>
      rcases h with _ | @⟨_, ⟨key', w⟩, _, _, ⟨hkey, hvw⟩, hrest⟩
      cases hrest
      obtain rfl : key = key' := hkey
      exact honly key hvw
  | several d hd =>
      have he : 1 < e.length := hlength ▸ hd
      cases multiKey with
      | passthrough =>
          rw [readDocument_passthrough levels hd, readDocument_passthrough levels he]
          exact same_raw_of_pointwise h
      | conjunction =>
          rw [readDocument_conjunction levels hd, readDocument_conjunction levels he, same,
            beq_self_eq_true, Bool.true_and, allSame_iff]
          refine List.rel_map ?_ h
          rintro ⟨key, v⟩ ⟨_, w⟩ ⟨rfl, hvw⟩
          exact hinner key hvw

theorem readsTwins_zero : ReadsTwins multiKey 0 := by
  intro key v w hvw
  rw [readDocument_one_zero, readDocument_one_zero]
  exact same_raw_of_pointwise (Document.pointwise_one key hvw)

/-- At every level, documents of twins state equal filters. -/
theorem same_readDocument_of_pointwise (levels : Nat) {d e : Document}
    (h : d.Pointwise Value.Twin e) :
    (readDocument multiKey levels d).same (readDocument multiKey levels e) = true := by
  induction levels generalizing d e with
  | zero =>
      exact same_readDocument_of_readsTwins multiKey (readsTwins_zero multiKey)
        (readsTwins_zero multiKey) h
  | succ levels ih =>
      have honly : ReadsTwins multiKey (levels + 1) := by
        intro key v w hvw
        rw [readDocument_one_succ, readDocument_one_succ]
        exact same_ofShape_of_twin ih key hvw (Shape.of_twin key hvw)
      have hinner : ReadsTwins multiKey levels :=
        fun key _ _ hvw => ih (Document.pointwise_one key hvw)
      exact same_readDocument_of_readsTwins multiKey honly hinner h

end

/-- Equal documents state the same filter, however they are read.  Lengths have 32 bits in the bytes
that make documents equal, so these have to be few enough for them; a document that cannot be
written is under no such condition. -/
theorem same_ofDocument_of_equal (config : ParseConfig) (d e : Document)
    (hfits : (Value.document d).FitsLengths)
    (h : (Value.document d).equal (.document e) = true) :
    (ofDocument config d).same (ofDocument config e) = true := by
  have halike := Value.alike_of_equal hfits h
  rcases (Value.equal_iff_of_sameEncoding halike.sameEncoding).mp h with hwritable | hde
  · obtain ⟨e', he', hpointwise⟩ := Value.twin_document ⟨halike, hwritable⟩
    rw [Value.document.inj he', ofDocument_eq, ofDocument_eq]
    exact same_readDocument_of_pointwise config.multiKey config.maxDepth hpointwise
  · rw [Value.document.inj hde]
    exact same_self _

/-- Options in another order in a list below an array element, in a comparison and in members of no
known shape. -/
theorem same_ofDocument_of_equal_reordered :
    let config : ParseConfig := ⟨.conjunction, 4⟩
    let d (o : String) : Document :=
      [("$or", .array [.document [("a", .document [("$elemMatch", .document
          [("b", .document [("$in", .array [.null, .regex "p" o])])])])],
        .document [("c", .document [("0", .regex "q" o)]), ("", .document [("$ne", .regex "r" o)])]]),
       ("d", .regex "s" o)]
    (Value.document (d "ix")).FitsLengths ∧
      (Value.document (d "ix")).equal (.document (d "xi")) = true ∧
      (ofDocument config (d "ix")).same (ofDocument config (d "xi")) = true := by
  intro config d
  have hfits : (Value.document (d "ix")).FitsLengths := by decide +kernel
  have hequal : (Value.document (d "ix")).equal (.document (d "xi")) = true := by decide +kernel
  exact ⟨hfits, hequal, same_ofDocument_of_equal config (d "ix") (d "xi") hfits hequal⟩

/-- Documents with two keys and with one, which are written with the same bytes because a length
wraps around, are kept raw as they are. -/
theorem not_forall_same_ofDocument_of_equal : ¬ ∀ (config : ParseConfig) (d e : Document),
    (Value.document d).equal (.document e) = true →
      (ofDocument config d).same (ofDocument config e) = true := by
  intro h
  obtain ⟨t, _, x, htwo, hone⟩ := exists_wrapped
  have hencoding : (Value.document [("0", .string ""), (t, .null)]).SameEncoding
      (.document [("0", .string ("\x00\n" ++ t))]) :=
    Value.sameEncoding_of_body_eq rfl (htwo.trans hone.symm)
  have hequal := (Value.equal_iff_of_sameEncoding hencoding).mpr
    (.inl (Value.writable_iff.mpr ⟨x, htwo⟩))
  have hsame := h ⟨.passthrough, 100⟩ _ _ hequal
  rw [ofDocument_eq, ofDocument_eq, readDocument_passthrough _ (by simp),
    readDocument_one_succ] at hsame
  have hunknown : Shape.of "0" (.string ("\x00\n" ++ t)) = .unknown := rfl
  rw [hunknown, ofShape, rawMember, same] at hsame
  simp [Document.sameMembers, Document.extract] at hsame

end Filter
end DocFilter

import DocFilter.Proofs.Reading

/-! # Conjunctions spelled out

Several members of a document in the place of a condition mean that all of them hold.  The same can
be said with the connective: `Document.spelledOut` puts a list of one-member documents under `$and`
wherever several members stand in such a place.  It goes where conditions are: the document itself,
the documents of a list under a connective, however the list is written, and the operand of
`$elemMatch`.  All else stays as it is, the other spellings of lists and operators too.

To read several members as a conjunction is to read the document that spells it out
(`ofDocument_spelledOut`).  In that document no several members are met, so both ways to read them
give this filter, and the members of each conjunction lie at the same depth in both documents. -/

namespace DocFilter

/-- A document of several members as the list of its members under `$and`. -/
def Document.conjoined : Document → Document
  | m :: m' :: rest => [("$and", .array ((m :: m' :: rest).map fun m => .document [m]))]
  | d => d

/-- Whether the documents right inside a value are conditions, when it stands under the key: it is a
list of documents under a connective, or the one operator `$elemMatch`. -/
def Value.holdsConditions (key : String) (v : Value) : Bool :=
  ((Connective.ofKeyword? key).isSome && v.documentItems?.isSome) ||
    v.singleOperator?.any fun operator => operator.1 == "$elemMatch"

mutual
/-- A value in the place of a condition. -/
def Value.spelledOut : Value → Value
  | .document d => .document (Document.conjoined (spelledMembers d))
  | v => v

/-- A value under a key. -/
def Value.spelledUnder (key : String) : Value → Value
  | .array items =>
    if Value.holdsConditions key (.array items) then .array (spelledItems items) else .array items
  | .document d =>
    if Value.holdsConditions key (.document d) then .document (spelledEntries d) else .document d
  | v => v

def spelledItems : List Value → List Value
  | [] => []
  | v :: rest => v.spelledOut :: spelledItems rest

/-- The members of a list that is written as a document, and an operator with its operand. -/
def spelledEntries : List (String × Value) → List (String × Value)
  | [] => []
  | (key, v) :: rest => (key, v.spelledOut) :: spelledEntries rest

/-- The members of a condition. -/
def spelledMembers : List (String × Value) → List (String × Value)
  | [] => []
  | (key, v) :: rest => (key, v.spelledUnder key) :: spelledMembers rest
end

/-- The document in which all conjunctions of several members are spelled out. -/
def Document.spelledOut (d : Document) : Document := Document.conjoined (spelledMembers d)

/-- Whether an event is about a member at the depth limit. -/
def Event.reportsLimit : Event → Bool
  | depthExceeded .. => true
  | _ => false

/-! ### Rows of values and of members -/

theorem spelledItems_eq_map (vs : List Value) : spelledItems vs = vs.map Value.spelledOut := by
  induction vs with
  | nil => rfl
  | cons v vs ih => rw [spelledItems, ih, List.map_cons]

theorem spelledMembers_eq_map (d : Document) :
    spelledMembers d = d.map fun m => (m.1, m.2.spelledUnder m.1) := by
  induction d with
  | nil => rfl
  | cons m rest ih => rw [spelledMembers, ih, List.map_cons]

theorem values_spelledEntries (d : Document) :
    Document.values (spelledEntries d) = d.values.map Value.spelledOut := by
  induction d with
  | nil => rfl
  | cons m rest ih =>
      have ih' : List.map Prod.snd (spelledEntries rest) =
          List.map Value.spelledOut (List.map Prod.snd rest) := ih
      simp only [spelledEntries, Document.values, List.map_cons, ih']

/-- The keys stay, so a list that is written as a document stays one. -/
theorem countsFrom_spelledEntries (d : Document) : ∀ index,
    Document.countsFrom index (spelledEntries d) = Document.countsFrom index d := by
  induction d with
  | nil => intro index; rfl
  | cons m rest ih =>
      intro index
      rw [spelledEntries, Document.countsFrom, Document.countsFrom, ih]

theorem spelledOut_singleton (key : String) (value : Value) :
    Document.spelledOut [(key, value)] = [(key, value.spelledUnder key)] := rfl

theorem spelledOut_several {d : Document} (h : 1 < d.length) :
    d.spelledOut =
      [(Connective.and.keyword, .array ((d.map fun m => Document.spelledOut [m]).map .document))] := by
  obtain _ | ⟨m, _ | ⟨m', rest⟩⟩ := d
  · simp at h
  · simp at h
  · rw [Document.spelledOut, spelledMembers_eq_map, List.map_map]
    simp only [List.map_cons, Document.conjoined, List.map_map]
    rfl

/-! ### The shape of what is spelled out -/

theorem spelledUnder_of_not_holdsConditions {key : String} {v : Value}
    (h : v.holdsConditions key = false) : v.spelledUnder key = v := by
  cases v with
  | array items => rw [Value.spelledUnder, h]; rfl
  | document d => rw [Value.spelledUnder, h]; rfl
  | _ => rfl

theorem holdsConditions_operator (key : String) {op : String} (h : op ≠ "0") (operand : Value) :
    Value.holdsConditions key (.document [(op, operand)]) = (op == "$elemMatch") := by
  rw [Value.holdsConditions, Shape.documentItems?_operator h, Option.isSome_none, Bool.and_false,
    Bool.false_or]
  rfl

/-- Operators that are no condition on array elements stay as they are. -/
theorem spelledUnder_operator (key : String) {op : String} (h0 : op ≠ "0") (h : op ≠ "$elemMatch")
    (operand : Value) :
    Value.spelledUnder key (.document [(op, operand)]) = .document [(op, operand)] := by
  refine spelledUnder_of_not_holdsConditions ?_
  rw [holdsConditions_operator key h0]
  exact beq_eq_false_iff_ne.mpr h

theorem spelledUnder_elemMatch (key : String) (operand : Value) :
    Value.spelledUnder key (.document [("$elemMatch", operand)]) =
      .document [("$elemMatch", operand.spelledOut)] := by
  rw [Value.spelledUnder, holdsConditions_operator key (by decide)]
  rfl

theorem listItems?_spelledUnder {key : String} {v : Value} {items : List Value}
    (hc : v.holdsConditions key = true) (h : v.listItems? = some items) :
    (v.spelledUnder key).listItems? = some (items.map Value.spelledOut) := by
  cases v with
  | array vs =>
      rw [Value.listItems?] at h
      cases h
      rw [Value.spelledUnder, hc, if_pos rfl, Value.listItems?, spelledItems_eq_map]
  | document d =>
      rw [Value.listItems?, Document.asList?] at h
      split at h
      · next hd =>
        cases h
        have hd' : Document.isListShaped (spelledEntries d) = true := by
          rw [Document.isListShaped, countsFrom_spelledEntries]
          exact hd
        rw [Value.spelledUnder, hc, if_pos rfl, Value.listItems?, Document.asList?, if_pos hd',
          values_spelledEntries]
      · cases h
  | _ => cases h

theorem documentItems?_spelledUnder {c : Connective} {v : Value} {ds : List Document}
    (h : v.documentItems? = some ds) :
    (v.spelledUnder c.keyword).documentItems? = some (ds.map Document.spelledOut) := by
  have hc : v.holdsConditions c.keyword = true := by
    rw [Value.holdsConditions, Shape.ofKeyword?_keyword, h]
    rfl
  obtain ⟨items, hitems, hds⟩ := Option.bind_eq_some_iff.mp h
  rw [Shape.map_document_of_mapM hds] at hitems
  have spelled : (ds.map Value.document).map Value.spelledOut =
      (ds.map Document.spelledOut).map .document := by
    rw [List.map_map, List.map_map]
    rfl
  rw [Value.documentItems?, listItems?_spelledUnder hc hitems, spelled]
  exact Shape.mapM_asDocument? _

/-- What the reader does not know holds no conditions for it, or an operand of `$elemMatch` that is
no document. -/
theorem spelledUnder_of_unknown {key : String} {v : Value} (h : Shape.of key v = .unknown) :
    v.spelledUnder key = v := by
  cases hc : v.holdsConditions key with
  | false => exact spelledUnder_of_not_holdsConditions hc
  | true =>
      rw [Value.holdsConditions, Bool.or_eq_true] at hc
      rcases hc with hlist | helem
      · obtain ⟨hkey, hitems⟩ := Bool.and_eq_true_iff.mp hlist
        obtain ⟨c, hkey⟩ := Option.isSome_iff_exists.mp hkey
        obtain ⟨ds, hitems⟩ := Option.isSome_iff_exists.mp hitems
        rw [Shape.of, hkey, hitems] at h
        cases h
      · obtain ⟨⟨op, operand⟩, hop, hname⟩ := Option.any_eq_true _ _ |>.mp helem
        have hv := Shape.eq_document_of_singleOperator? hop
        have hname : op = "$elemMatch" := beq_iff_eq.mp hname
        subst hname hv
        rw [spelledUnder_elemMatch]
        cases operand with
        | document d =>
            rw [Shape.of_elemMatch] at h
            cases h
        | _ => rfl

/-- A member that is spelled out keeps its shape, with the documents inside spelled out. -/
theorem of_spelledUnder (key : String) (v : Value) :
    Shape.of key (v.spelledUnder key) = (Shape.of key v).mapDocuments Document.spelledOut := by
  have hr := Shape.recognised key v
  generalize hs : Shape.of key v = s at hr ⊢
  cases hr with
  | logical hitems =>
      rw [Shape.of, Shape.ofKeyword?_keyword, documentItems?_spelledUnder hitems]
      rfl
  | @comparison _ name _ _ hname =>
      have h0 : name ≠ "0" := Shape.ofKeyword?_ne hname rfl
      have helem : name ≠ "$elemMatch" := Shape.ofKeyword?_ne hname rfl
      rw [spelledUnder_operator key h0 helem, hs, Shape.mapDocuments]
  | membership _ =>
      rw [spelledUnder_operator key (by decide) (by decide), hs, Shape.mapDocuments]
  | elemMatch =>
      rw [spelledUnder_elemMatch, Value.spelledOut, Shape.of_elemMatch]
      rfl
  | unknown _ => rw [spelledUnder_of_unknown hs, hs, Shape.mapDocuments]

namespace Filter

section
variable (multiKey : MultiKey) (levels depth : Nat)

/-- No member is met at the limit when a document is read at a depth with some levels left. -/
def StaysWithin (d : Document) : Prop :=
  ∀ x ∈ (ofDocumentAt multiKey levels depth d).events, ¬ x.reportsLimit

theorem not_staysWithin_zero (m : String × Value) : ¬ StaysWithin multiKey 0 depth [m] := by
  intro h
  have hm : Event.depthExceeded m.1 depth ∈ (ofDocumentAt multiKey 0 depth [m]).events := by
    rw [ofDocumentAt_singleton, ofMember_zero]
    exact List.mem_singleton_self _
  exact h _ hm rfl

/-- What is reported inside a member is reported for the member. -/
theorem mem_events_ofMemberWith {read : Document → Logged Filter} {m : String × Value}
    {d : Document} (hd : d ∈ (Shape.of m.1 m.2).documents) {x : Event}
    (hx : x ∈ (read d).events) : x ∈ (ofMemberWith read m).events := by
  unfold ofMemberWith
  dsimp only
  cases hs : Shape.of m.1 m.2 with
  | logical c ds =>
      rw [hs] at hd
      have hread : read d ∈ ds.map read := List.mem_map_of_mem hd
      exact List.mem_flatMap.mpr ⟨read d, hread, hx⟩
  | elemMatch e =>
      rw [hs, Shape.documents, List.mem_singleton] at hd
      rw [← hd]
      exact hx
  | _ => simp [hs, Shape.documents] at hd

variable {multiKey levels depth} in
theorem StaysWithin.inside {m : String × Value} (h : StaysWithin multiKey (levels + 1) depth [m])
    {d : Document} (hd : d ∈ (Shape.of m.1 m.2).documents) :
    StaysWithin multiKey levels (depth + 1) d := by
  intro x hx
  refine h x ?_
  rw [ofDocumentAt_singleton, ofMember_succ]
  exact mem_events_ofMemberWith hd hx

end

/-- The induction is on the levels that are left.  A document that is spelled out has at most one
member, so that it cannot be read within the limit when there is none; above the limit, the members
of a conjunction lie one level below it on both sides. -/
theorem readDocument_spelledOut (multiKey multiKey' : MultiKey) (levels : Nat) :
    ∀ (depth : Nat) (d : Document), StaysWithin multiKey levels depth d.spelledOut →
    readDocument multiKey' levels d.spelledOut = readDocument .conjunction levels d := by
  induction levels with
  | zero =>
      intro depth d h
      cases d using Document.cases_members with
      | empty => rfl
      | single key value => exact absurd h (not_staysWithin_zero multiKey depth _)
      | several d hd =>
          rw [spelledOut_several hd] at h
          exact absurd h (not_staysWithin_zero multiKey depth _)
  | succ n ih =>
      intro depth d h
      cases d using Document.cases_members with
      | empty => rfl
      | single key value =>
          have inside : ∀ e ∈ (Shape.of key value).documents,
              readDocument multiKey' n e.spelledOut = readDocument .conjunction n e := by
            intro e he
            refine ih (depth + 1) e (StaysWithin.inside h ?_)
            rw [of_spelledUnder, Shape.documents_mapDocuments]
            exact List.mem_map_of_mem he
          rw [spelledOut_singleton, readDocument_one_succ, readDocument_one_succ, of_spelledUnder,
            ofShape_mapDocuments _ _ key (Shape.of key value) spelledUnder_of_unknown]
          exact ofShape_congr _ _ inside
      | several d hd =>
          have hs := Shape.of_group .and (d.map fun m => Document.spelledOut [m])
          rw [spelledOut_several hd] at h ⊢
          have inside : ∀ m ∈ d,
              readDocument multiKey' n (Document.spelledOut [m]) = readDocument .conjunction n [m] := by
            intro m hm
            refine ih (depth + 1) [m] (StaysWithin.inside h ?_)
            rw [hs]
            exact List.mem_map_of_mem hm
          rw [readDocument_one_succ, hs, ofShape, readDocument_conjunction (n + 1) hd,
            Nat.add_sub_cancel, List.map_map]
          exact congrArg (group .and) (List.map_congr_left inside)

/-- To read several members as a conjunction is to read the document that spells this out, in either
way to read several members, as long as no member of it is met at the depth limit. -/
theorem ofDocument_spelledOut (multiKey : MultiKey) (maxDepth : Nat) (d : Document)
    (h : ∀ x ∈ (parse ⟨multiKey, maxDepth⟩ d.spelledOut).events, ¬ x.reportsLimit) :
    ∀ multiKey', ofDocument ⟨multiKey', maxDepth⟩ d.spelledOut =
      ofDocument ⟨.conjunction, maxDepth⟩ d := by
  intro multiKey'
  rw [ofDocument_eq, ofDocument_eq]
  exact readDocument_spelledOut multiKey multiKey' maxDepth 0 d h

/-- Conjunctions inside a list that is written as a document, inside an operand of `$elemMatch`, at
the smallest limit that is not met. -/
theorem ofDocument_spelledOut_nested :
    let d : Document := [
      ("a", .document [("$elemMatch", .document [
        ("b", .document [("$neq", .null)]),
        ("$or", .document [("0", .document [("x", .int32 1), ("$and", .array [])])])])]),
      ("$or", .array [.document [("c", .null), ("d", .null)], .null])]
    (∀ x ∈ (parse ⟨.passthrough, 6⟩ d.spelledOut).events, ¬ x.reportsLimit) ∧
      ∀ multiKey', ofDocument ⟨multiKey', 6⟩ d.spelledOut = ofDocument ⟨.conjunction, 6⟩ d := by
  intro d
  have h : ∀ x ∈ (parse ⟨.passthrough, 6⟩ d.spelledOut).events, ¬ x.reportsLimit := by decide
  exact ⟨h, ofDocument_spelledOut .passthrough 6 d h⟩

end Filter
end DocFilter

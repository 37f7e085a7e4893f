import DocFilter.Json.Extended
import DocFilter.Proofs.Equality
import DocFilter.Proofs.JsonText
import DocFilter.Proofs.Parts

/-! # Values that are read back from JSON

Null, truth values, texts and whole numbers have a form of their own in JSON, and so have arrays and
documents of them, as long as no key of a document is a mark of another kind of value
(`Value.IsPlain`).  JSON does not tell integers of 32 bits from those of 64: what is read is an
integer of 32 bits when it is not negative, so that a value comes back with its negative numbers
widened and nothing else changed (`Value.ofJson?_toJson`).

Wider numbers take more bytes, wherever they stand.  So a value with a negative number in it is not
equal to what comes back (`Value.equal_widened_iff`). -/

namespace DocFilter

/-! ### Values with a form of their own -/

/-- Whether a key of an object is that of a member, which marks no other kind of value. -/
def Json.isMemberKey (key : String) : Bool :=
  key != "$code" && key != "$scope" && !reservedKeys.contains key

/-- Whether a key does not begin with the sign of operators. -/
def isFieldKey (key : String) : Bool := key.toList.head? != some '$'

theorem Json.isMemberKey_of_isFieldKey {key : String} (h : isFieldKey key = true) :
    isMemberKey key = true := by
  have hmarks : ∀ mark ∈ "$code" :: "$scope" :: reservedKeys, isFieldKey mark = false := by decide
  by_contra hkey
  have hmem : key ∈ "$code" :: "$scope" :: reservedKeys := by
    simp only [isMemberKey, Bool.and_eq_true, bne_iff_ne, ne_eq, Bool.not_eq_true',
      List.contains_eq_mem, decide_eq_false_iff_not] at hkey
    simp only [List.mem_cons]
    tauto
  rw [hmarks key hmem] at h
  exact Bool.noConfusion h

namespace Value

/-- Whether a value has a form of its own, whatever is in it.  In a document each key stands once
and is one of the given keys. -/
def isPlainNode (isKey : String → Bool) : Value → Bool
  | null | bool _ | string _ | int32 _ | array _ => true
  | document d => decide (Document.keys d).Nodup && (Document.keys d).all isKey
  | _ => false

/-- Values with a form of their own in JSON. -/
abbrev IsPlain (isKey : String → Bool) (v : Value) : Prop :=
  EveryPart (fun w => w.isPlainNode isKey = true) v

theorem isPlainNode_document {isKey : String → Bool} {d : Document} :
    (document d).isPlainNode isKey = true ↔ d.keys.Nodup ∧ ∀ key ∈ d.keys, isKey key = true := by
  simp [isPlainNode]

theorem isPlain_array {isKey : String → Bool} {vs : List Value} :
    (array vs).IsPlain isKey ↔ ∀ v ∈ vs, v.IsPlain isKey :=
  (everyPart_iff _ _).trans (and_iff_right rfl)

theorem isPlain_document {isKey : String → Bool} {d : Document} :
    (document d).IsPlain isKey ↔ (d.keys.Nodup ∧ ∀ key ∈ d.keys, isKey key = true) ∧
      ∀ v ∈ d.values, v.IsPlain isKey :=
  (everyPart_iff _ _).trans (and_congr_left' isPlainNode_document)

theorem IsPlain.mono {isKey isKey' : String → Bool}
    (hkey : ∀ key, isKey key = true → isKey' key = true) {v : Value} (h : v.IsPlain isKey) :
    v.IsPlain isKey' := by
  intro w hw
  have hnode := h w hw
  cases w with
  | document d =>
      rw [isPlainNode_document] at hnode ⊢
      exact ⟨hnode.1, fun key hmem => hkey key (hnode.2 key hmem)⟩
  | scalar s => cases s <;> exact hnode
  | _ => exact hnode

end Value

/-! ### What is written -/

theorem toJsonItems_eq_map (vs : List Value) : toJsonItems vs = vs.map Value.toJson := by
  induction vs with
  | nil => simp [toJsonItems]
  | cons v vs ih => simp [toJsonItems, ih]

theorem toJsonMembers_eq_map (d : Document) :
    toJsonMembers d = d.map fun (key, v) => (key, v.toJson) := by
  induction d with
  | nil => simp [toJsonMembers]
  | cons m d ih => simp [toJsonMembers, ih]

/-- What is written has no doubles in it, and no number of more than 64 bits. -/
theorem Value.plain_toJson {isKey : String → Bool} {v : Value} (h : v.IsPlain isKey) :
    v.toJson.Plain := by
  induction v using induction_parts with
  | node v ih =>
      obtain ⟨hnode, hparts⟩ := (everyPart_iff _ v).mp h
      have hplain : ∀ w ∈ v.parts, w.toJson.Plain := fun w hw => ih w hw (hparts w hw)
      cases v with
      | array vs =>
          rw [toJson, toJsonItems_eq_map]
          exact .list (List.forall_mem_map.mpr hplain)
      | document d =>
          rw [toJson, toJsonMembers_eq_map]
          exact .object (List.forall_mem_map.mpr fun m hm => hplain m.2 (List.mem_map_of_mem hm))
      | scopedCode source scope => cases hnode
      | scalar s =>
          cases s <;> first | (cases hnode; done) | skip
          case null => exact .null
          case bool b => exact .bool b
          case string s => exact .string s
          case int32 n =>
            have hmin : -2147483648 ≤ n.toInt := n.le_toInt
            have hmax : n.toInt < 2147483648 := n.toInt_lt
            exact .int (Int.le_trans (by decide) hmin) (Int.lt_trans hmax (by decide))

/-! ### Numbers that come back wider -/

/-- A negative integer of 32 bits as one of 64 bits. -/
def Scalar.widened : Scalar → Scalar
  | int32 n => if n.toInt < 0 then int64 (Int64.ofInt n.toInt) else int32 n
  | s => s

mutual
/-- A value with all negative integers of 32 bits in it as integers of 64 bits. -/
def Value.widened : Value → Value
  | .scalar s => .scalar s.widened
  | .array items => .array (widenedItems items)
  | .document members => .document (widenedMembers members)
  | .scopedCode source scope => .scopedCode source (widenedMembers scope)

def widenedItems : List Value → List Value
  | [] => []
  | value :: rest => value.widened :: widenedItems rest

def widenedMembers : List (String × Value) → List (String × Value)
  | [] => []
  | (key, value) :: rest => (key, value.widened) :: widenedMembers rest
end

theorem widenedItems_eq_map (vs : List Value) : widenedItems vs = vs.map Value.widened := by
  induction vs with
  | nil => simp [widenedItems]
  | cons v vs ih => simp [widenedItems, ih]

/-! ### What is read -/

theorem ofJsonInt?_toInt (n : Int32) :
    Value.ofJsonInt? n.toInt = some (Value.int32 n).widened := by
  have hmin : -2147483648 ≤ n.toInt := n.le_toInt
  have hmax : n.toInt < 2147483648 := n.toInt_lt
  have h31 : Int.pow 2 31 = 2147483648 := rfl
  have h63 : Int.pow 2 63 = 9223372036854775808 := rfl
  rw [Value.widened, Scalar.widened, Value.ofJsonInt?, h31, h63]
  by_cases hneg : n.toInt < 0
  · rw [if_pos hneg, if_neg (by omega), if_pos (by omega)]
  · rw [if_neg hneg, if_pos (by omega), Int32.ofInt_toInt]

theorem ofJsonItems?_toJson (vs : List Value)
    (hread : ∀ v ∈ vs, Value.ofJson? v.toJson = some v.widened) :
    ofJsonItems? (vs.map Value.toJson) = some (vs.map Value.widened) := by
  induction vs with
  | nil => rw [List.map_nil, List.map_nil, ofJsonItems?]
  | cons v vs ih =>
      obtain ⟨hv, hvs⟩ := List.forall_mem_cons.mp hread
      simp [ofJsonItems?, hv, ih hvs]

theorem Document.insert_of_notMem {key : String} {d : Document} (h : key ∉ Document.keys d)
    (v : Value) : Document.insert key v d = d ++ [(key, v)] := by
  induction d with
  | nil => rfl
  | cons m d ih =>
      obtain ⟨key', w⟩ := m
      obtain ⟨hkey, hkeys⟩ : key ≠ key' ∧ key ∉ Document.keys d := by simpa [keys] using h
      rw [insert, if_neg (Ne.symm hkey), ih hkeys, List.cons_append]

theorem ofJsonMembers?_member {key : String} (hkey : Json.isMemberKey key = true) (set : Document)
    (item : Json) (rest : List (String × Json)) :
    ofJsonMembers? set ((key, item) :: rest) =
      (Value.ofJson? item).bind fun v => ofJsonMembers? (Document.insert key v set) rest := by
  obtain ⟨⟨hcode, hscope⟩, hreserved⟩ : (key ≠ "$code" ∧ key ≠ "$scope") ∧
      Json.reservedKeys.contains key = false := by
    simpa only [Json.isMemberKey, Bool.and_eq_true, bne_iff_ne, Bool.not_eq_true'] using hkey
  rw [ofJsonMembers?.eq_def]
  split <;> simp_all

/-- Keys that are not there yet are set behind those that are. -/
theorem ofJsonMembers?_toJson (d : Document)
    (hread : ∀ v ∈ d.values, Value.ofJson? v.toJson = some v.widened)
    (hkeys : ∀ key ∈ d.keys, Json.isMemberKey key = true) (set : Document)
    (hnodup : (set.keys ++ d.keys).Nodup) :
    ofJsonMembers? set (d.map fun (key, v) => (key, v.toJson)) =
      some (.document (set ++ widenedMembers d)) := by
  induction d generalizing set with
  | nil => simp [ofJsonMembers?, widenedMembers]
  | cons m d ih =>
      obtain ⟨key, v⟩ := m
      obtain ⟨hv, hvalues⟩ := List.forall_mem_cons.mp hread
      obtain ⟨hkey, hkeys⟩ := List.forall_mem_cons.mp hkeys
      have hnew : key ∉ set.keys := fun hmem =>
        (List.nodup_append.mp hnodup).2.2 key hmem key (by simp [Document.keys]) rfl
      have hset : (Document.keys (set ++ [(key, v.widened)]) ++ Document.keys d).Nodup := by
        simpa [Document.keys] using hnodup
      rw [List.map_cons, ofJsonMembers?_member hkey, hv, Option.bind_some,
        Document.insert_of_notMem hnew, ih hvalues hkeys _ hset, widenedMembers, List.append_assoc]
      rfl

/-- A value is read back with its negative numbers widened. -/
theorem Value.ofJson?_toJson {v : Value} (h : v.IsPlain Json.isMemberKey) :
    Value.ofJson? v.toJson = some v.widened := by
  induction v using induction_parts with
  | node v ih =>
      obtain ⟨hnode, hparts⟩ := (everyPart_iff _ v).mp h
      have hread : ∀ w ∈ v.parts, Value.ofJson? w.toJson = some w.widened :=
        fun w hw => ih w hw (hparts w hw)
      cases v with
      | array vs =>
          rw [toJson, toJsonItems_eq_map, ofJson?, ofJsonItems?_toJson vs hread, widened,
            widenedItems_eq_map]
          rfl
      | document d =>
          obtain ⟨hnodup, hkeys⟩ := isPlainNode_document.mp hnode
          rw [toJson, toJsonMembers_eq_map, ofJson?, ofJsonMembers?_toJson d hread hkeys [] hnodup,
            widened, List.nil_append]
      | scopedCode source scope => cases hnode
      | scalar s =>
          cases s <;> first | (cases hnode; done) | skip
          case int32 n => exact ofJsonInt?_toInt n
          all_goals rfl

/-! ### Equality with what is read -/

namespace Value

def isNegativeInt32 : Value → Bool
  | int32 n => n.toInt < 0
  | _ => false

theorem widened_scalar_eq_self_iff (s : Scalar) :
    (scalar s).widened = scalar s ↔ (scalar s).isNegativeInt32 = false := by
  cases s with
  | int32 n =>
      rw [widened, Scalar.widened]
      by_cases hneg : n.toInt < 0 <;> simp [isNegativeInt32, hneg]
  | _ => exact iff_of_true rfl rfl

theorem widenedItems_eq_self_iff (vs : List Value) :
    widenedItems vs = vs ↔ ∀ v ∈ vs, v.widened = v := by
  conv_lhs => rw [widenedItems_eq_map, ← List.map_id vs, List.map_map]
  exact List.map_inj_left

theorem widenedMembers_eq_self_iff (d : Document) :
    widenedMembers d = d ↔ ∀ v ∈ d.values, v.widened = v := by
  induction d with
  | nil => simp [widenedMembers, Document.values]
  | cons m d ih =>
      obtain ⟨key, v⟩ := m
      have hrest := and_congr_right' (a := v.widened = v) ih
      simpa [widenedMembers, Document.values] using hrest

/-- The value is the same unless a number in it is negative. -/
theorem widened_eq_self_iff (v : Value) :
    v.widened = v ↔ EveryPart (fun w => w.isNegativeInt32 = false) v := by
  induction v using induction_parts with
  | node v ih =>
      have hparts : (∀ w ∈ v.parts, w.widened = w) ↔
          ∀ w ∈ v.parts, EveryPart (fun w => w.isNegativeInt32 = false) w :=
        forall_congr' fun w => forall_congr' fun hw => ih w hw
      rw [everyPart_iff, ← hparts]
      cases v with
      | scalar s => simp [widened_scalar_eq_self_iff, parts]
      | array vs => simp [widened, widenedItems_eq_self_iff, parts, isNegativeInt32]
      | document d => simp [widened, widenedMembers_eq_self_iff, parts, isNegativeInt32]
      | scopedCode source d => simp [widened, widenedMembers_eq_self_iff, parts, isNegativeInt32]

/-- Where a value is written, what comes back is written in as many bytes or in more, and in as many
only when it is the same. -/
def Grows (v : Value) : Prop :=
  ∀ x, v.body = .ok x → ∃ y, v.widened.body = .ok y ∧ x.length ≤ y.length ∧
    (y.length = x.length → v.widened = v)

theorem members_grow {d : Document} (h : ∀ v ∈ d.values, v.Grows) {x : List UInt8}
    (hx : encodeMembers d = .ok x) :
    ∃ y, encodeMembers (widenedMembers d) = .ok y ∧ x.length ≤ y.length ∧
      (y.length = x.length → widenedMembers d = d) := by
  induction d generalizing x with
  | nil => exact ⟨x, by rwa [widenedMembers], Nat.le_refl _, fun _ => by rw [widenedMembers]⟩
  | cons m d ih =>
      obtain ⟨key, v⟩ := m
      obtain ⟨hv, hvalues⟩ := List.forall_mem_cons.mp h
      obtain ⟨body, others, hkey, hbody, hothers, rfl⟩ := encodeMembers_cons_eq_ok.mp hx
      obtain ⟨body', hbody', hlen, hself⟩ := hv body hbody
      obtain ⟨others', hothers', hlens, hselves⟩ := ih hvalues hothers
      -- Neither the first body nor the rest is shorter, so equal lengths are equal for both.
      rw [widenedMembers]
      refine ⟨_, encodeMembers_cons_eq_ok.mpr ⟨body', others', hkey, hbody', hothers', rfl⟩, ?_⟩
      simp only [List.length_cons, List.length_append]
      refine ⟨by omega, fun heq => ?_⟩
      rw [hself (by omega), hselves (by omega)]

theorem numbered_widened (index : Nat) (vs : List Value) :
    numbered index (widenedItems vs) = widenedMembers (numbered index vs) := by
  induction vs generalizing index with
  | nil => rw [widenedItems, numbered, widenedMembers]
  | cons v vs ih => rw [widenedItems, numbered, numbered, widenedMembers, ih]

theorem scalar_grows (s : Scalar) : (scalar s).Grows := by
  intro x hx
  cases s with
  | int32 n =>
      obtain rfl : littleEndian 4 n.toUInt32.toNat = x := Except.ok.inj hx
      rw [widened, Scalar.widened]
      split
      · refine ⟨_, rfl, ?_⟩
        simp [length_littleEndian]
      · exact ⟨_, rfl, Nat.le_refl _, fun _ => rfl⟩
  | _ => exact ⟨x, hx, Nat.le_refl _, fun _ => rfl⟩

theorem grows (v : Value) : v.Grows := by
  induction v using induction_parts with
  | node v ih =>
      intro x hx
      cases v with
      | scalar s => exact scalar_grows s x hx
      | array vs =>
          obtain ⟨bytes, hbytes, rfl⟩ := body_array_eq_ok.mp hx
          obtain ⟨bytes', hbytes', hlen, hself⟩ :=
            members_grow (by rwa [values_numbered]) hbytes
          refine ⟨framed bytes', ?_, ?_⟩
          · rw [widened, body_array_eq_ok, numbered_widened]
            exact ⟨bytes', hbytes', rfl⟩
          · rw [length_framed, length_framed]
            refine ⟨by omega, fun heq => ?_⟩
            have := congrArg Document.values (hself (by omega))
            rw [← numbered_widened, values_numbered, values_numbered] at this
            rw [widened, this]
      | document d =>
          obtain ⟨bytes, hbytes, rfl⟩ := body_document_eq_ok.mp hx
          obtain ⟨bytes', hbytes', hlen, hself⟩ := members_grow ih hbytes
          refine ⟨framed bytes', body_document_eq_ok.mpr ⟨bytes', hbytes', rfl⟩, ?_⟩
          rw [length_framed, length_framed]
          exact ⟨by omega, fun heq => by rw [widened, hself (by omega)]⟩
      | scopedCode source d =>
          obtain ⟨bytes, hbytes, rfl⟩ := body_scopedCode_eq_ok.mp hx
          obtain ⟨bytes', hbytes', hlen, hself⟩ := members_grow ih hbytes
          refine ⟨_, body_scopedCode_eq_ok.mpr ⟨bytes', hbytes', rfl⟩, ?_⟩
          simp only [List.length_append, length_littleEndian, length_framed]
          exact ⟨by omega, fun heq => by rw [widened, hself (by omega)]⟩

/-- What comes back is equal only when it is the same. -/
theorem equal_widened_iff (v : Value) : v.widened.equal v = true ↔ v.widened = v := by
  constructor
  · intro h
    have hsame := sameEncoding_of_equal h
    rcases (equal_iff_of_sameEncoding hsame).mp h with hwritable | heq
    · obtain ⟨y, hy⟩ := writable_iff.mp hwritable
      have hx : v.body = .ok y := hsame.body_eq ▸ hy
      obtain ⟨y', hy', _, hself⟩ := grows v y hx
      obtain rfl : y = y' := Except.ok.inj (hy.symm.trans hy')
      exact hself rfl
    · exact heq
  · intro h
    rw [h, equal_self]

end Value
end DocFilter

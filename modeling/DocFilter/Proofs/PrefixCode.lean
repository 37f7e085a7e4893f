import DocFilter.Proofs.Containers
import Mathlib.Data.Char
import Mathlib.Data.List.Sort

/-! # Reading bytes back

The bytes of a value tell where they end and what the value is, in everything but the order of the
options of regular expressions (`Value.Alike`).  Take two values of the same type byte, whose bodies
begin alike with something behind each.  Fields of a fixed width and fields with their length end
where they say (`Delimited`); texts end at their first zero byte (`text_of_terminated`); and
documents end where a zero byte stands for a type byte (`members_of_append`).  So the values are
alike, and what is behind them is the same (`Value.readsBack`).

Hence the bytes of no value are a proper beginning of those of another, and bytes are equal exactly
for values that are alike (`Value.encode_prefix_code`).  All this is about bytes that are few enough
for lengths of 32 bits. -/

namespace DocFilter

/-! ### Values up to the order of options -/

/-- Scalars that are the same up to the order of the options of a regular expression. -/
def Scalar.Alike : Scalar → Scalar → Prop
  | regex p o, regex q u => p = q ∧ o.toList.Perm u.toList
  | s, t => s = t

/-- Values that are the same up to the order of the options of regular expressions in them, at any
level. -/
inductive Value.Alike : Value → Value → Prop
  | scalar {s t : Scalar} : s.Alike t → Alike (.scalar s) (.scalar t)
  | array {vs ws : List Value} : List.Forall₂ Alike vs ws → Alike (.array vs) (.array ws)
  | document {d e : Document} : d.keys = e.keys → List.Forall₂ Alike d.values e.values →
      Alike (.document d) (.document e)
  | scopedCode {source : String} {d e : Document} : d.keys = e.keys →
      List.Forall₂ Alike d.values e.values → Alike (.scopedCode source d) (.scopedCode source e)

theorem insertChar_eq (c : Char) (cs : List Char) :
    insertChar c cs = cs.orderedInsert (· ≤ ·) c := by
  induction cs with
  | nil => rfl
  | cons d cs ih => rw [insertChar, List.orderedInsert_cons, ih]

theorem sortedText_eq (s : String) :
    sortedText s = String.ofList (s.toList.insertionSort (· ≤ ·)) := by
  have h : insertChar = List.orderedInsert (· ≤ ·) := funext₂ insertChar_eq
  rw [sortedText, h]
  rfl

/-- Options are written alike exactly when they are the same in some order. -/
theorem sortedText_eq_iff (o u : String) :
    sortedText o = sortedText u ↔ o.toList.Perm u.toList := by
  have perm (cs : List Char) := List.perm_insertionSort (· ≤ ·) cs
  have sorted (cs : List Char) := List.pairwise_insertionSort (· ≤ ·) cs
  rw [sortedText_eq, sortedText_eq, String.ofList_inj]
  constructor
  · intro h
    exact (perm o.toList).symm.trans (h ▸ perm u.toList)
  · intro h
    exact ((perm _).trans (h.trans (perm _).symm)).eq_of_pairwise' (sorted _) (sorted _)

theorem Scalar.Alike.refl (s : Scalar) : s.Alike s := by
  unfold Alike
  split
  · exact ⟨rfl, .refl _⟩
  · rfl

theorem Value.Alike.refl (v : Value) : v.Alike v := by
  induction v using induction_parts with
  | node v ih =>
      cases v with
      | scalar s => exact .scalar (.refl s)
      | array items => exact .array (List.forall₂_same.mpr ih)
      | document members => exact .document rfl (List.forall₂_same.mpr ih)
      | scopedCode source members => exact .scopedCode rfl (List.forall₂_same.mpr ih)

/-! ### Values that are alike are written alike -/

theorem Scalar.Alike.tag_eq_and_body_eq {s t : Scalar} (h : s.Alike t) :
    s.tag = t.tag ∧ s.body = t.body := by
  unfold Alike at h
  split at h
  · obtain ⟨rfl, ho⟩ := h
    exact ⟨rfl, by rw [body, body, (sortedText_eq_iff _ _).mpr ho]⟩
  · subst h
    exact ⟨rfl, rfl⟩

theorem Value.Alike.sameEncoding {v w : Value} (h : v.Alike w) : v.SameEncoding w := by
  induction v using induction_parts generalizing w with
  | node v ih =>
      cases h with
      | scalar hst =>
          obtain ⟨htag, hbody⟩ := hst.tag_eq_and_body_eq
          exact sameEncoding_of_body_eq htag (by rw [Value.body, Value.body, hbody])
      | array hitems => exact encode_array_congr (forall₂_imp_of_mem ih hitems)
      | document hkeys hvalues =>
          exact encode_document_congr
            (Document.pointwise_iff.mpr ⟨hkeys, forall₂_imp_of_mem ih hvalues⟩)
      | scopedCode hkeys hvalues =>
          exact encode_scopedCode_congr _
            (Document.pointwise_iff.mpr ⟨hkeys, forall₂_imp_of_mem ih hvalues⟩)

/-! ### Texts up to a zero byte -/

section
variable {r q : List UInt8}

theorem zero_notMem_utf8EncodeChar {c : Char} (h : c ≠ '\x00') :
    (0 : UInt8) ∉ String.utf8EncodeChar c := by
  have hc : c.val.toNat ≠ 0 := fun e => h (Char.ext (UInt32.toNat_inj.mp e))
  unfold String.utf8EncodeChar
  generalize c.val.toNat = n at hc
  dsimp only
  -- Only a single byte could be zero: the bytes of longer forms have their highest bit set.
  split
  · simp only [List.mem_singleton, ← UInt8.toNat_inj, UInt8.toNat_ofNat', UInt8.toNat_zero]
    omega
  · split_ifs <;>
      simp only [List.mem_cons, List.not_mem_nil, or_false, ← UInt8.toNat_inj, UInt8.toNat_ofNat',
        UInt8.toNat_zero] <;>
      omega

theorem zero_notMem_utf8 {s : String} (h : hasNul s = false) : (0 : UInt8) ∉ utf8 s := by
  intro hmem
  obtain ⟨c, hc, h0⟩ := List.mem_flatMap.mp hmem
  refine zero_notMem_utf8EncodeChar ?_ h0
  rintro rfl
  simp [hasNul, hc] at h

theorem utf8_inj {s t : String} : utf8 s = utf8 t ↔ s = t := by
  rw [← String.toByteArray_inj, ← String.utf8Encode_toList, ← String.utf8Encode_toList]
  exact List.toByteArray_inj.symm

theorem append_zero_inj {x y : List UInt8} (hx : 0 ∉ x) (hy : 0 ∉ y)
    (h : x ++ 0 :: r = y ++ 0 :: q) : x = y ∧ r = q := by
  induction x generalizing y with
  | nil =>
      cases y with
      | nil => exact ⟨rfl, (List.cons.inj h).2⟩
      | cons b y => exact absurd (List.cons.inj h).1 (List.ne_of_not_mem_cons hy)
  | cons a x ih =>
      cases y with
      | nil => exact absurd (List.cons.inj h).1.symm (List.ne_of_not_mem_cons hx)
      | cons b y =>
          obtain ⟨hab, hrest⟩ := List.cons.inj h
          obtain ⟨hxy, hrq⟩ := ih (List.not_mem_of_not_mem_cons hx)
            (List.not_mem_of_not_mem_cons hy) hrest
          exact ⟨by rw [hab, hxy], hrq⟩

/-- A text without U+0000 ends at the first zero byte. -/
theorem text_of_terminated {s t : String} (hs : hasNul s = false) (ht : hasNul t = false)
    (h : utf8 s ++ 0 :: r = utf8 t ++ 0 :: q) : s = t ∧ r = q := by
  obtain ⟨hst, hrq⟩ := append_zero_inj (zero_notMem_utf8 hs) (zero_notMem_utf8 ht) h
  exact ⟨utf8_inj.mp hst, hrq⟩

end

/-! ### Fields that know their end -/

/-- Whether the bytes of a field tell the field and where it ends, as long as they are few enough
for lengths of 32 bits. -/
def Delimited {α : Type} (bytes : α → List UInt8) : Prop :=
  ∀ (a b : α) {r q : List UInt8}, (bytes a).length < Nat.pow 2 31 →
    (bytes b).length < Nat.pow 2 31 → bytes a ++ r = bytes b ++ q → a = b ∧ r = q

theorem delimited_of_length {α : Type} {bytes : α → List UInt8} (width : Nat)
    (hlen : ∀ a, (bytes a).length = width) (hinj : Function.Injective bytes) :
    Delimited bytes := by
  intro a b r q _ _ h
  obtain ⟨hab, hrq⟩ := List.append_inj h ((hlen a).trans (hlen b).symm)
  exact ⟨hinj hab, hrq⟩

theorem Delimited.append {α β : Type} {f : α → List UInt8} {g : β → List UInt8}
    (hf : Delimited f) (hg : Delimited g) : Delimited fun p : α × β => f p.1 ++ g p.2 := by
  rintro ⟨a, b⟩ ⟨a', b'⟩ r q hx hy h
  simp only [List.length_append] at hx hy
  simp only [List.append_assoc] at h
  obtain ⟨rfl, hrest⟩ := hf a a' (by omega) (by omega) h
  obtain ⟨rfl, hrq⟩ := hg b b' (by omega) (by omega) hrest
  exact ⟨rfl, hrq⟩

theorem littleEndian_inj (width : Nat) {n m : Nat} (hn : n < Nat.pow 256 width)
    (hm : m < Nat.pow 256 width) (h : littleEndian width n = littleEndian width m) : n = m := by
  have := congrArg ofLittleEndian h
  rwa [ofLittleEndian_littleEndian, ofLittleEndian_littleEndian, Nat.mod_eq_of_lt hn,
    Nat.mod_eq_of_lt hm] at this

/-- Lengths that fit can be read back. -/
theorem length_of_littleEndian {n m : Nat} (hn : n < Nat.pow 2 31) (hm : m < Nat.pow 2 31)
    (h : littleEndian 4 n = littleEndian 4 m) : n = m :=
  littleEndian_inj 4 (Nat.lt_trans hn (by decide)) (Nat.lt_trans hm (by decide)) h

theorem delimited_word32 : Delimited fun n : UInt32 => littleEndian 4 n.toNat :=
  delimited_of_length 4 (fun _ => length_littleEndian 4 _) fun n m (h : littleEndian 4 _ = _) =>
    UInt32.toNat_inj.mp (littleEndian_inj 4 n.toNat_lt m.toNat_lt h)

theorem delimited_word64 : Delimited fun n : UInt64 => littleEndian 8 n.toNat :=
  delimited_of_length 8 (fun _ => length_littleEndian 8 _) fun n m (h : littleEndian 8 _ = _) =>
    UInt64.toNat_inj.mp (littleEndian_inj 8 n.toNat_lt m.toNat_lt h)

theorem delimited_bool : Delimited fun b : Bool => [if b then (1 : UInt8) else 0] :=
  delimited_of_length 1 (fun _ => rfl) fun b c => by cases b <;> cases c <;> decide

theorem delimited_objectId : Delimited ObjectId.bytes :=
  delimited_of_length 12 ObjectId.length_bytes fun ⟨_, _⟩ ⟨_, _⟩ h => by cases h; rfl

theorem delimited_decimal128 : Delimited Decimal128.bytes :=
  delimited_of_length 16 Decimal128.length_bytes fun ⟨_, _⟩ ⟨_, _⟩ h => by cases h; rfl

theorem length_sized (s : String) : (sized s).length = (utf8 s).length + 5 := by
  simp only [sized, List.length_append, length_littleEndian, List.length_singleton]
  omega

theorem delimited_sized : Delimited sized := by
  intro s t r q hs ht h
  rw [length_sized] at hs ht
  simp only [sized, List.append_assoc] at h
  obtain ⟨hsize, hrest⟩ := List.append_inj h (by simp)
  have hlen := length_of_littleEndian (by omega) (by omega) hsize
  obtain ⟨hst, hrq⟩ := List.append_inj hrest (by omega)
  exact ⟨utf8_inj.mp hst, List.append_cancel_left hrq⟩

/-- What stands behind the subtype of binary data. -/
def binaryContent (subtype : UInt8) (bytes : List UInt8) : List UInt8 :=
  if subtype = 2 then littleEndian 4 bytes.length ++ bytes else bytes

/-- In both forms of binary data the length in front is that of the content. -/
theorem binaryBody_eq (subtype : UInt8) (bytes : List UInt8) :
    binaryBody subtype bytes =
      littleEndian 4 (binaryContent subtype bytes).length ++
        subtype :: binaryContent subtype bytes := by
  unfold binaryBody binaryContent
  split <;> simp [Nat.add_comm]

theorem delimited_binaryBody : Delimited fun p : UInt8 × List UInt8 => binaryBody p.1 p.2 := by
  rintro ⟨a, x⟩ ⟨b, y⟩ r q hx hy h
  simp only [binaryBody_eq, List.length_append, List.length_cons, length_littleEndian] at hx hy
  simp only [binaryBody_eq, List.append_assoc] at h
  obtain ⟨hsize, hrest⟩ := List.append_inj h (by simp)
  have hlen := length_of_littleEndian (by omega) (by omega) hsize
  obtain ⟨rfl, hrest⟩ := List.cons.inj hrest
  obtain ⟨hcontent, hrq⟩ := List.append_inj hrest hlen
  refine ⟨Prod.ext rfl ?_, hrq⟩
  unfold binaryContent at hcontent
  split at hcontent
  · exact (List.append_inj hcontent (by simp)).2
  · exact hcontent

/-! ### Scalars -/

section
variable {r q : List UInt8}

theorem Scalar.body_regex_eq_ok {p o : String} {x : List UInt8} :
    (regex p o).body = .ok x ↔ hasNul p = false ∧ hasNul (sortedText o) = false ∧
      utf8 p ++ 0 :: (utf8 (sortedText o) ++ [0]) = x := by
  simp only [body, Encoded.bind_eq_ok, Encoded.pure_eq_ok, terminated_eq_ok]
  constructor
  · rintro ⟨_, ⟨hp, rfl⟩, _, ⟨ho, rfl⟩, rfl⟩
    exact ⟨hp, ho, by simp⟩
  · rintro ⟨hp, ho, rfl⟩
    exact ⟨_, ⟨hp, rfl⟩, _, ⟨ho, rfl⟩, by simp⟩

theorem Scalar.alike_of_append {s t : Scalar} {x y : List UInt8} (hs : s.body = .ok x)
    (ht : t.body = .ok y) (htag : s.tag = t.tag) (hx : x.length < Nat.pow 2 31)
    (hy : y.length < Nat.pow 2 31) (h : x ++ r = y ++ q) : s.Alike t ∧ r = q := by
  -- Scalars of different kinds have different type bytes.
  cases s <;> cases t <;> simp [tag] at htag
  case null.null | undefined.undefined | minKey.minKey | maxKey.maxKey =>
    cases hs
    cases ht
    exact ⟨rfl, h⟩
  case bool.bool a b =>
    cases hs
    cases ht
    obtain ⟨rfl, hrq⟩ := delimited_bool a b hx hy h
    exact ⟨rfl, hrq⟩
  case string.string a b | code.code a b | symbol.symbol a b =>
    cases hs
    cases ht
    obtain ⟨rfl, hrq⟩ := delimited_sized a b hx hy h
    exact ⟨rfl, hrq⟩
  case int32.int32 n m =>
    cases hs
    cases ht
    obtain ⟨hnm, hrq⟩ := delimited_word32 _ _ hx hy h
    exact ⟨by cases n; cases m; cases hnm; rfl, hrq⟩
  case int64.int64 n m | datetime.datetime n m =>
    cases hs
    cases ht
    obtain ⟨hnm, hrq⟩ := delimited_word64 _ _ hx hy h
    exact ⟨by cases n; cases m; cases hnm; rfl, hrq⟩
  case double.double a b =>
    cases hs
    cases ht
    obtain ⟨hab, hrq⟩ := delimited_word64 _ _ hx hy h
    exact ⟨by cases a; cases b; cases hab; rfl, hrq⟩
  case binary.binary a x b y =>
    cases hs
    cases ht
    obtain ⟨hab, hrq⟩ := delimited_binaryBody (a, x) (b, y) hx hy h
    exact ⟨by cases hab; rfl, hrq⟩
  case objectId.objectId a b =>
    cases hs
    cases ht
    obtain ⟨rfl, hrq⟩ := delimited_objectId a b hx hy h
    exact ⟨rfl, hrq⟩
  case decimal128.decimal128 a b =>
    cases hs
    cases ht
    obtain ⟨rfl, hrq⟩ := delimited_decimal128 a b hx hy h
    exact ⟨rfl, hrq⟩
  case timestamp.timestamp time increment time' increment' =>
    cases hs
    cases ht
    obtain ⟨hab, hrq⟩ := delimited_word32.append delimited_word32 (increment, time)
      (increment', time') hx hy h
    exact ⟨by cases hab; rfl, hrq⟩
  case dbPointer.dbPointer c a d b =>
    cases hs
    cases ht
    obtain ⟨hab, hrq⟩ := delimited_sized.append delimited_objectId (c, a) (d, b) hx hy h
    exact ⟨by cases hab; rfl, hrq⟩
  case regex.regex p o p' o' =>
    obtain ⟨hp, ho, rfl⟩ := body_regex_eq_ok.mp hs
    obtain ⟨hp', ho', rfl⟩ := body_regex_eq_ok.mp ht
    simp only [List.append_assoc, List.cons_append, List.nil_append] at h
    obtain ⟨rfl, hoptions⟩ := text_of_terminated hp hp' h
    obtain ⟨hsorted, hrq⟩ := text_of_terminated ho ho' hoptions
    exact ⟨⟨rfl, (sortedText_eq_iff o o').mp hsorted⟩, hrq⟩

/-! ### Containers -/

theorem Scalar.tag_ne (s : Scalar) : s.tag ≠ 0 ∧ s.tag ≠ 0x03 ∧ s.tag ≠ 0x04 ∧ s.tag ≠ 0x0f := by
  cases s <;> simp [tag]

theorem Value.tag_ne_zero (v : Value) : v.tag ≠ 0 := by
  cases v with
  | scalar s => exact s.tag_ne.1
  | _ => simp [tag]

/-- Whether the bodies of two values with the same type byte, if they are shorter than a limit, tell
that the values are related and where they end. -/
def Value.BodiesTell (R : Value → Value → Prop) (limit : Nat) (v w : Value) : Prop :=
  ∀ {x y r q : List UInt8}, v.tag = w.tag → v.body = .ok x → w.body = .ok y →
    x.length < limit → y.length < limit → x ++ r = y ++ q → R v w ∧ r = q

/-- Whether the body of a value tells the value, up to the order of options, and where it ends,
among all values with the same type byte. -/
def Value.ReadsBack (v : Value) : Prop := ∀ w, BodiesTell Alike (Nat.pow 2 31) v w

section
variable {R : Value → Value → Prop} {limit : Nat}

/-- Members end where a zero byte stands in the place of a type byte. -/
theorem members_of_append {d e : Document}
    (hde : ∀ v ∈ d.values, ∀ w ∈ e.values, v.BodiesTell R limit w) {x y : List UInt8}
    (hx : encodeMembers d = .ok x) (hy : encodeMembers e = .ok y)
    (hxlen : x.length < limit) (hylen : y.length < limit)
    (h : x ++ 0 :: r = y ++ 0 :: q) : d.Pointwise R e ∧ r = q := by
  induction d generalizing e x y with
  | nil =>
      rw [encodeMembers_nil_eq_ok] at hx
      cases e with
      | nil =>
          rw [encodeMembers_nil_eq_ok] at hy
          subst hx hy
          exact ⟨.nil, (List.cons.inj h).2⟩
      | cons n e =>
          obtain ⟨_, _, _, _, _, rfl⟩ := encodeMembers_cons_eq_ok.mp hy
          subst hx
          exact absurd (List.cons.inj h).1.symm n.2.tag_ne_zero
  | cons m d ih =>
      obtain ⟨key, v⟩ := m
      obtain ⟨b, o, hkey, hb, ho, rfl⟩ := encodeMembers_cons_eq_ok.mp hx
      cases e with
      | nil =>
          rw [encodeMembers_nil_eq_ok] at hy
          subst hy
          exact absurd (List.cons.inj h).1 v.tag_ne_zero
      | cons n e =>
          obtain ⟨key', w⟩ := n
          obtain ⟨b', o', hkey', hb', ho', rfl⟩ := encodeMembers_cons_eq_ok.mp hy
          simp only [List.length_cons, List.length_append] at hxlen hylen
          simp only [List.append_assoc, List.cons_append, List.cons.injEq] at h
          obtain ⟨htag, hmember⟩ := h
          obtain ⟨rfl, hbody⟩ := text_of_terminated hkey hkey' hmember
          obtain ⟨hvw, hothers⟩ := hde v List.mem_cons_self w List.mem_cons_self htag hb hb'
            (by omega) (by omega) hbody
          have hrest : ∀ v ∈ Document.values d, ∀ w ∈ Document.values e, v.BodiesTell R limit w :=
            fun v hv w hw => hde v (List.mem_cons_of_mem _ hv) w (List.mem_cons_of_mem _ hw)
          obtain ⟨hpointwise, hrq⟩ := ih hrest ho ho' (by omega) (by omega) hothers
          exact ⟨.cons ⟨rfl, hvw⟩ hpointwise, hrq⟩

/-- The length in front of a document is not needed to find its end. -/
theorem document_of_append {d e : Document}
    (hde : ∀ v ∈ d.values, ∀ w ∈ e.values, v.BodiesTell R limit w) {x y : List UInt8}
    (hx : encodeMembers d = .ok x) (hy : encodeMembers e = .ok y)
    (hxlen : (framed x).length < limit) (hylen : (framed y).length < limit)
    (h : framed x ++ r = framed y ++ q) : d.Pointwise R e ∧ r = q := by
  rw [length_framed] at hxlen hylen
  simp only [framed, List.append_assoc] at h
  exact members_of_append hde hx hy (by omega) (by omega) (List.append_inj h (by simp)).2

theorem array_of_append {vs ws : List Value} (hvw : ∀ v ∈ vs, ∀ w ∈ ws, v.BodiesTell R limit w)
    {x y : List UInt8} (hx : encodeMembers (numbered 0 vs) = .ok x)
    (hy : encodeMembers (numbered 0 ws) = .ok y) (hxlen : (framed x).length < limit)
    (hylen : (framed y).length < limit) (h : framed x ++ r = framed y ++ q) :
    List.Forall₂ R vs ws ∧ r = q := by
  have hitems : ∀ v ∈ (numbered 0 vs).values, ∀ w ∈ (numbered 0 ws).values,
      v.BodiesTell R limit w := by
    rwa [values_numbered, values_numbered]
  obtain ⟨hmembers, hrq⟩ := document_of_append hitems hx hy hxlen hylen h
  have hvalues := (Document.pointwise_iff.mp hmembers).2
  rw [values_numbered, values_numbered] at hvalues
  exact ⟨hvalues, hrq⟩

end

end

theorem Value.readsBack (v : Value) : v.ReadsBack := by
  induction v using induction_parts with
  | node v ih =>
      intro w x y r q htag hv hw hx hy h
      cases v with
      | scalar s =>
          cases w with
          | scalar t =>
              obtain ⟨hst, hrq⟩ := Scalar.alike_of_append hv hw htag hx hy h
              exact ⟨.scalar hst, hrq⟩
          | document e => exact absurd htag s.tag_ne.2.1
          | array ws => exact absurd htag s.tag_ne.2.2.1
          | scopedCode source e => exact absurd htag s.tag_ne.2.2.2
      | array vs =>
          cases w with
          | array ws =>
              obtain ⟨a, ha, rfl⟩ := body_array_eq_ok.mp hv
              obtain ⟨b, hb, rfl⟩ := body_array_eq_ok.mp hw
              obtain ⟨hitems, hrq⟩ := array_of_append (fun v hv w _ => ih v hv w) ha hb hx hy h
              exact ⟨.array hitems, hrq⟩
          | scalar t => exact absurd htag.symm t.tag_ne.2.2.1
          | document e => cases htag
          | scopedCode source e => cases htag
      | document d =>
          cases w with
          | document e =>
              obtain ⟨a, ha, rfl⟩ := body_document_eq_ok.mp hv
              obtain ⟨b, hb, rfl⟩ := body_document_eq_ok.mp hw
              obtain ⟨hmembers, hrq⟩ := document_of_append (fun v hv w _ => ih v hv w) ha hb hx hy h
              obtain ⟨hkeys, hvalues⟩ := Document.pointwise_iff.mp hmembers
              exact ⟨.document hkeys hvalues, hrq⟩
          | scalar t => exact absurd htag.symm t.tag_ne.2.1
          | array ws => cases htag
          | scopedCode source e => cases htag
      | scopedCode source d =>
          cases w with
          | scopedCode source' e =>
              obtain ⟨a, ha, rfl⟩ := body_scopedCode_eq_ok.mp hv
              obtain ⟨b, hb, rfl⟩ := body_scopedCode_eq_ok.mp hw
              simp only [List.length_append] at hx hy
              simp only [List.append_assoc] at h
              have hinner := (List.append_inj h (by simp)).2
              obtain ⟨rfl, hscope⟩ := delimited_sized source source' (by omega) (by omega) hinner
              obtain ⟨hmembers, hrq⟩ := document_of_append (fun v hv w _ => ih v hv w) ha hb
                (by omega) (by omega) hscope
              obtain ⟨hkeys, hvalues⟩ := Document.pointwise_iff.mp hmembers
              exact ⟨.scopedCode hkeys hvalues, hrq⟩
          | scalar t => exact absurd htag.symm t.tag_ne.2.2.2
          | array ws => cases htag
          | document e => cases htag

/-! ### Whole values -/

namespace Value

theorem eq_and_alike_of_isPrefix {v w : Value} {x y : CanonicalBytes}
    (hv : CanonicalBytes.encode v = .ok x) (hw : CanonicalBytes.encode w = .ok y)
    (hx : x.length < Nat.pow 2 31) (hy : y.length < Nat.pow 2 31) (h : x.bytes <+: y.bytes) :
    x = y ∧ v.Alike w := by
  obtain ⟨a, ha, rfl⟩ := encode_eq_ok.mp hv
  obtain ⟨b, hb, rfl⟩ := encode_eq_ok.mp hw
  simp only [CanonicalBytes.length, List.length_cons] at hx hy
  obtain ⟨rest, h⟩ := h
  simp only [List.cons_append, List.cons.injEq] at h
  obtain ⟨htag, hbody⟩ := h
  have hab : a ++ rest = b ++ [] := by rw [hbody, List.append_nil]
  obtain ⟨hvw, hrest⟩ := v.readsBack w htag ha hb (by omega) (by omega) hab
  refine ⟨?_, hvw⟩
  rw [htag, ← hbody, hrest, List.append_nil]

/-- Bytes that begin the bytes of another value are those bytes, and the two values are alike;
values that are alike have the same bytes or fail to be written for the same reason. -/
theorem encode_prefix_code (v w : Value) :
    (∀ x y, CanonicalBytes.encode v = .ok x → CanonicalBytes.encode w = .ok y →
      x.length < Nat.pow 2 31 → y.length < Nat.pow 2 31 → x.bytes <+: y.bytes →
      x = y ∧ v.Alike w) ∧
    (v.Alike w → CanonicalBytes.encode v = CanonicalBytes.encode w) := by
  constructor
  · intro x y hv hw hx hy h
    exact eq_and_alike_of_isPrefix hv hw hx hy h
  · exact Alike.sameEncoding

/-- Options in another order below an array, a text with U+0000 in it, and binary data with two
lengths. -/
theorem encode_prefix_code_nested :
    let v (options : String) : Value := document [("a", array [regex "p" options, string "\x00"]),
      ("", scopedCode "c" [("b", scalar (.binary 2 [7]))])]
    let x : CanonicalBytes := ⟨[3, 60, 0, 0, 0, 4, 97, 0, 22, 0, 0, 0, 11, 48, 0, 112, 0, 105, 120,
      0, 2, 49, 0, 2, 0, 0, 0, 0, 0, 0, 15, 0, 28, 0, 0, 0, 2, 0, 0, 0, 99, 0, 18, 0, 0, 0, 5, 98,
      0, 5, 0, 0, 0, 2, 1, 0, 0, 0, 7, 0, 0]⟩
    CanonicalBytes.encode (v "xi") = .ok x ∧ x.length < Nat.pow 2 31 ∧ (v "xi").Alike (v "ix") ∧
      CanonicalBytes.encode (v "ix") = .ok x := by
  intro v x
  have hxi : CanonicalBytes.encode (v "xi") = .ok x := by rfl
  have hix : CanonicalBytes.encode (v "ix") = .ok x := by rfl
  have hlen : x.length < Nat.pow 2 31 := by decide
  obtain ⟨hread, hwrite⟩ := encode_prefix_code (v "xi") (v "ix")
  have halike := (hread x x hxi hix hlen hlen (List.prefix_refl _)).2
  exact ⟨hxi, hlen, halike, (hwrite halike).symm.trans hxi⟩

/-! ### Equal values -/

/-- Whether the bytes of a value, if it has any, are few enough for lengths of 32 bits. -/
def FitsLengths (v : Value) : Prop :=
  ∀ x, CanonicalBytes.encode v = .ok x → x.length < Nat.pow 2 31

instance (v : Value) : Decidable v.FitsLengths :=
  match h : CanonicalBytes.encode v with
  | .ok x => decidable_of_iff (x.length < Nat.pow 2 31) (by simp [FitsLengths, h])
  | .error _ => isTrue (by simp [FitsLengths, h])

/-- Equal values have the same bytes, which can be read back, or are the same. -/
theorem alike_of_equal {v w : Value} (hfits : v.FitsLengths) (h : v.equal w = true) :
    v.Alike w := by
  have hsame := sameEncoding_of_equal h
  rcases (equal_iff_of_sameEncoding hsame).mp h with ⟨x, hx⟩ | rfl
  · have hlen := hfits x hx
    exact (eq_and_alike_of_isPrefix hx (hsame ▸ hx) hlen hlen (List.prefix_refl _)).2
  · exact .refl v

end Value
end DocFilter

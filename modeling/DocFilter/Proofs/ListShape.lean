import DocFilter.Proofs.PrefixCode

/-! # Lists that are written as documents

A list-shaped document has the numerals from `0` on as its keys (`Document.countsFrom_iff`), and
these are the keys that an array is written with (`keys_numbered`).  So a list-shaped document and
the array of its values are written with the same bytes but for the type byte.  Conversely keys can
be read back from bytes, so a document that is written as some array is list-shaped
(`Document.of_sameContent`).

This needs lengths that fit in 32 bits.  Greater ones wrap around, and a text that takes as many
bytes as there are lengths is written like the empty text and a member behind it (`sized_wrapped`).
Then documents with different keys are written with the same bytes (`exists_wrapped`). -/

namespace DocFilter

/-- The numerals from `index` on. -/
def numeralsFrom (index count : Nat) : List String := (List.range' index count).map toString

theorem keys_numbered (index : Nat) (vs : List Value) :
    (numbered index vs).keys = numeralsFrom index vs.length := by
  induction vs generalizing index with
  | nil => rfl
  | cons v vs ih => exact congrArg (toString index :: ·) (ih (index + 1))

theorem Document.countsFrom_iff {index : Nat} {d : Document} :
    d.countsFrom index = true ↔ d.keys = numeralsFrom index d.length := by
  induction d generalizing index with
  | nil => exact iff_of_true rfl rfl
  | cons m rest ih =>
      obtain ⟨key, v⟩ := m
      rw [countsFrom, Bool.and_eq_true, beq_iff_eq, ih]
      exact List.cons_eq_cons.symm

/-- Whether keys count depends on the keys alone. -/
theorem Document.countsFrom_congr {d e : Document} (h : d.keys = e.keys) (index : Nat) :
    d.countsFrom index = e.countsFrom index := by
  have hlength : d.length = e.length := by
    simpa [keys] using congrArg List.length h
  rw [Bool.eq_iff_iff, countsFrom_iff, countsFrom_iff, h, hlength]

/-- Members under the numerals are the items of an array with their keys. -/
theorem Document.numbered_values {index : Nat} {d : Document} (h : d.countsFrom index = true) :
    numbered index d.values = d := by
  induction d generalizing index with
  | nil => rfl
  | cons m rest ih =>
      obtain ⟨key, v⟩ := m
      rw [countsFrom, Bool.and_eq_true, beq_iff_eq] at h
      obtain ⟨rfl, hrest⟩ := h
      exact congrArg ((toString index, v) :: ·) (ih hrest)

/-- Whether two values are written with the same bytes behind the type byte. -/
def Value.SameContent (v w : Value) : Prop :=
  ∃ content, CanonicalBytes.encode v = .ok ⟨v.tag :: content⟩ ∧
    CanonicalBytes.encode w = .ok ⟨w.tag :: content⟩

theorem Value.sameContent_iff {v w : Value} :
    v.SameContent w ↔ ∃ content, v.body = .ok content ∧ w.body = .ok content := by
  refine exists_congr fun content => ?_
  simp [encode_eq_ok]

/-! ### Lengths that wrap around -/

/-- Texts without U+0000 are of any length. -/
theorem exists_text (n : Nat) : ∃ t : String, hasNul t = false ∧ (utf8 t).length = n := by
  refine ⟨String.ofList (List.replicate n 'a'), ?_, ?_⟩
  · simp [hasNul]
  · simp [utf8, List.flatMap_replicate, String.utf8EncodeChar]

section
variable {t : String} (hlength : (utf8 t).length + 2 = Nat.pow 256 4)
include hlength

/-- A text whose length wraps around is written like the empty text with a null member behind it: its
first character ends the empty text, the second one is the type byte, and `t` is the key. -/
theorem sized_wrapped :
    sized ("\x00\n" ++ t) = sized "" ++ Value.null.tag :: (utf8 t ++ [0]) := by
  have htext : utf8 ("\x00\n" ++ t) = 0 :: 0x0a :: utf8 t := by
    rw [utf8_append]
    rfl
  have hwrapped : (utf8 ("\x00\n" ++ t)).length + 1 = 1 + Nat.pow 256 4 := by
    rw [htext, List.length_cons, List.length_cons]
    omega
  rw [sized, hwrapped, littleEndian_add_pow, htext]
  simp [sized, utf8, Value.tag, Scalar.tag]

/-- So two members are written with the bytes of one. -/
theorem exists_encodeMembers_wrapped (hnul : hasNul t = false) :
    ∃ x, encodeMembers [("0", .string ""), (t, .null)] = .ok x ∧
      encodeMembers [("0", .string ("\x00\n" ++ t))] = .ok x := by
  have hnull : encodeMembers [(t, .null)] = .ok (Value.null.tag :: (utf8 t ++ [0])) :=
    encodeMembers_cons_eq_ok.mpr ⟨[], [], hnul, rfl, rfl, rfl⟩
  have hone : encodeMembers [("0", .string ("\x00\n" ++ t))] =
      .ok (0x02 :: (utf8 "0" ++ 0 :: (sized ("\x00\n" ++ t) ++ []))) :=
    encodeMembers_cons_eq_ok.mpr ⟨_, [], by decide, rfl, rfl, rfl⟩
  refine ⟨_, ?_, hone⟩
  rw [List.append_nil, sized_wrapped hlength]
  exact encodeMembers_cons_eq_ok.mpr ⟨_, _, by decide, rfl, hnull, rfl⟩

end

/-- A document with two keys that is written like one with a single key.  The second key takes two
bytes less than there are lengths. -/
theorem exists_wrapped : ∃ t : String, 1 < (utf8 t).length ∧
    ∃ x, (Value.document [("0", .string ""), (t, .null)]).body = .ok x ∧
      (Value.document [("0", .string ("\x00\n" ++ t))]).body = .ok x := by
  obtain ⟨t, hnul, hlength⟩ := exists_text (Nat.pow 256 4 - 2)
  have hwrapped : (utf8 t).length + 2 = Nat.pow 256 4 := by rw [hlength]
  obtain ⟨members, htwo, hone⟩ := exists_encodeMembers_wrapped hwrapped hnul
  refine ⟨t, ?_, framed members, ?_, ?_⟩
  · rw [hlength]
    decide
  · exact Value.body_document_eq_ok.mpr ⟨members, htwo, rfl⟩
  · exact Value.body_document_eq_ok.mpr ⟨members, hone, rfl⟩

namespace Document

theorem sameContent_of_isListShaped {d : Document} (hwritable : (Value.document d).Writable)
    (h : d.isListShaped = true) : (Value.array d.values).SameContent (.document d) := by
  obtain ⟨content, hcontent⟩ := Value.writable_iff.mp hwritable
  have hbody : (Value.array d.values).body = (Value.document d).body := by
    rw [Value.body, Value.body, encodeItems_eq, numbered_values h]
  exact Value.sameContent_iff.mpr ⟨content, hbody.trans hcontent, hcontent⟩

/-- Only a list-shaped document is written as an array, and the array holds its values. -/
theorem of_sameContent {d : Document} (hfits : (Value.document d).FitsLengths) {vs : List Value}
    (h : (Value.array vs).SameContent (.document d)) :
    d.isListShaped = true ∧ List.Forall₂ Value.Alike d.values vs := by
  obtain ⟨content, harray, hdocument⟩ := Value.sameContent_iff.mp h
  have hlength : content.length < Nat.pow 2 31 := by
    have := hfits _ (Value.encode_eq_ok.mpr ⟨content, hdocument, rfl⟩)
    simp only [CanonicalBytes.length, List.length_cons] at this
    omega
  obtain ⟨members, hmembers, rfl⟩ := Value.body_document_eq_ok.mp hdocument
  obtain ⟨items, hitems, hframed⟩ := Value.body_array_eq_ok.mp harray
  have hpointwise : d.Pointwise Value.Alike (numbered 0 vs) := by
    have hbytes : framed members ++ [] = framed items ++ [] := by rw [hframed]
    exact (document_of_append (fun v _ w _ => v.readsBack w) hmembers hitems hlength
      (hframed ▸ hlength) hbytes).1
  obtain ⟨hkeys, hvalues⟩ := pointwise_iff.mp hpointwise
  rw [values_numbered] at hvalues
  rw [keys_numbered, ← hvalues.length_eq, values, List.length_map] at hkeys
  exact ⟨countsFrom_iff.mpr hkeys, hvalues⟩

/-- A document that can be written is list-shaped exactly when it is written as an array, all but
the type byte.  Then its values in order are taken for the list, and the array of them is such an
array.  Only to tell the keys from the bytes, lengths have to fit in 32 bits. -/
theorem isListShaped_iff_sameContent (d : Document) (hwritable : (Value.document d).Writable) :
    ((Value.document d).FitsLengths →
      (d.isListShaped = true ↔ ∃ vs, (Value.array vs).SameContent (.document d))) ∧
    (d.isListShaped = true →
      d.asList? = some d.values ∧ (Value.document d).listItems? = some d.values ∧
        (Value.array d.values).SameContent (.document d)) := by
  constructor
  · intro hfits
    constructor
    · intro h
      exact ⟨d.values, sameContent_of_isListShaped hwritable h⟩
    · rintro ⟨vs, hvs⟩
      exact (of_sameContent hfits hvs).1
  · intro h
    have hlist : d.asList? = some d.values := if_pos h
    exact ⟨hlist, hlist, sameContent_of_isListShaped hwritable h⟩

/-- Eleven values, so that a key has two digits, and the same with a zero in front of that key. -/
theorem isListShaped_iff_sameContent_two_digits :
    let last (options : String) : Value :=
      .document [("0", .regex "p" options), ("2", .string "\x00")]
    let d (key : String) : Document :=
      ((List.range 10).map fun i => (toString i, .null)) ++ [(key, last "xi")]
    (Value.document (d "10")).Writable ∧ (Value.document (d "10")).FitsLengths ∧
      (d "10").asList? = some (List.replicate 10 .null ++ [last "xi"]) ∧
      (Value.array (List.replicate 10 .null ++ [last "xi"])).SameContent (.document (d "10")) ∧
      (Value.document (d "010")).Writable ∧ (Value.document (d "010")).FitsLengths ∧
      ¬ ∃ vs, (Value.array vs).SameContent (.document (d "010")) := by
  intro last d
  have hwritable : (Value.document (d "10")).Writable := by decide +kernel
  have hwritable' : (Value.document (d "010")).Writable := by decide +kernel
  have hfits : (Value.document (d "10")).FitsLengths := by decide +kernel
  have hfits' : (Value.document (d "010")).FitsLengths := by decide +kernel
  have hshape : (d "10").isListShaped = true := by decide +kernel
  have hshape' : (d "010").isListShaped = false := by decide +kernel
  obtain ⟨hlist, _, hcontent⟩ := (isListShaped_iff_sameContent (d "10") hwritable).2 hshape
  have hiff := (isListShaped_iff_sameContent (d "010") hwritable').1 hfits'
  refine ⟨hwritable, hfits, hlist, hcontent, hwritable', hfits', fun h => ?_⟩
  rw [hiff.mpr h] at hshape'
  cases hshape'

/-- A text in an array whose length wraps around, written like a document whose second key is no
numeral. -/
theorem not_forall_isListShaped_iff_sameContent : ¬ ∀ d : Document, (Value.document d).Writable →
    (d.isListShaped = true ↔ ∃ vs, (Value.array vs).SameContent (.document d)) := by
  intro h
  obtain ⟨t, hlong, x, htwo, hone⟩ := exists_wrapped
  have harray : (Value.array [.string ("\x00\n" ++ t)]).body = .ok x := by
    rw [← hone, Value.body, Value.body, encodeItems_eq]
    rfl
  have hshape := (h _ (Value.writable_iff.mpr ⟨x, htwo⟩)).mpr
    ⟨_, Value.sameContent_iff.mpr ⟨x, harray, htwo⟩⟩
  have hkeys : ["0", t] = ["0", "1"] := countsFrom_iff.mp hshape
  obtain rfl : t = "1" := by simpa using hkeys
  exact absurd hlong (by decide)

end Document
end DocFilter

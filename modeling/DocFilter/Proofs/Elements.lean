import DocFilter.Proofs.Writability

/-! # Elements of containers

What a value adds to the bytes of a document is what it is written as on its own, with the key put
in behind the type byte (`ElementsOf`).  So the bytes of documents, arrays and scopes are put
together from those of the values in them, at any depth, and a container can be written exactly when
this can be done (`Value.encode_containers_iff_frameOf`).

The same holds of the document that a value is put into to be written, whose only key is empty.
Hence its type byte and its body stand where they are taken out, and what would be put in for them
if the document were too short is never used (`Value.slices_of_encode_sole`). -/

namespace DocFilter

/-! ### Lengths in front -/

/-- A length of four bytes in front of other bytes is that of all of them, itself included. -/
theorem littleEndian_append_eq_iff {rest content : List UInt8} :
    littleEndian 4 (rest.length + 4) ++ rest = content ↔
      content = littleEndian 4 content.length ++ rest := by
  constructor
  · rintro rfl
    rw [List.length_append, length_littleEndian, Nat.add_comm 4]
  · intro h
    have hlength : content.length = rest.length + 4 := by
      simpa [Nat.add_comm] using congrArg List.length h
    rw [← hlength]
    exact h.symm

/-- A length that fits can be read off the bytes that it stands in front of. -/
theorem ofLittleEndian_take_eq_length {rest content : List UInt8}
    (h : content = littleEndian 4 content.length ++ rest) (hfits : content.length < Nat.pow 2 31) :
    ofLittleEndian (content.take 4) = content.length := by
  have hfront : content.take 4 = littleEndian 4 content.length := by
    conv_lhs => rw [h]
    exact List.take_left' (length_littleEndian 4 _)
  have hwidth : content.length < Nat.pow 256 4 := Nat.lt_trans hfits (by decide)
  rw [hfront, ofLittleEndian_littleEndian, Nat.mod_eq_of_lt hwidth]

/-! ### Elements -/

/-- The elements of a document, put together from the bytes of its values, each written on its own:
the key and a zero byte go between the first of these bytes and the others. -/
inductive ElementsOf : Document → List UInt8 → Prop
  | nil : ElementsOf [] []
  | cons {key : String} {v : Value} {rest : Document} {tag : UInt8} {body others : List UInt8} :
      '\x00' ∉ key.toList → v.encode = .ok (tag :: body) → ElementsOf rest others →
      ElementsOf ((key, v) :: rest) (tag :: utf8 key ++ 0 :: body ++ others)

/-- Whether bytes are those of a document behind its type byte: the length of them all, the elements
and a zero byte. -/
def FrameOf (d : Document) (content : List UInt8) : Prop :=
  ∃ elements, ElementsOf d elements ∧ content = littleEndian 4 content.length ++ elements ++ [0]

theorem Value.encode_eq_ok_iff_body {v : Value} {x : List UInt8} :
    v.encode = .ok x ↔ ∃ body, v.body = .ok body ∧ x = v.tag :: body := by
  rw [encode_eq]
  cases v.body <;> simp [Functor.map, Except.map, eq_comm]

theorem encodeMembers_eq_ok_iff {d : Document} {x : List UInt8} :
    encodeMembers d = .ok x ↔ ElementsOf d x := by
  induction d generalizing x with
  | nil =>
      rw [encodeMembers_nil_eq_ok]
      constructor
      · rintro rfl
        exact .nil
      · rintro ⟨⟩
        rfl
  | cons m rest ih =>
      obtain ⟨key, v⟩ := m
      rw [encodeMembers_cons_eq_ok]
      constructor
      · rintro ⟨body, others, hkey, hbody, hothers, rfl⟩
        have hv : v.encode = .ok (v.tag :: body) :=
          Value.encode_eq_ok_iff_body.mpr ⟨body, hbody, rfl⟩
        simpa using ElementsOf.cons (hasNul_eq_false_iff.mp hkey) hv (ih.mp hothers)
      · rintro (_ | ⟨hkey, hv, hothers⟩)
        obtain ⟨body, hbody, heq⟩ := Value.encode_eq_ok_iff_body.mp hv
        obtain ⟨rfl, rfl⟩ := List.cons.inj heq
        exact ⟨_, _, hasNul_eq_false_iff.mpr hkey, hbody, ih.mpr hothers, by simp⟩

theorem frameOf_iff {d : Document} {content : List UInt8} :
    FrameOf d content ↔ ∃ elements, encodeMembers d = .ok elements ∧ framed elements = content := by
  refine exists_congr fun elements => and_congr encodeMembers_eq_ok_iff.symm ?_
  have hframed : framed elements =
      littleEndian 4 ((elements ++ [0]).length + 4) ++ (elements ++ [0]) := by
    simp [framed]
  rw [hframed, littleEndian_append_eq_iff, List.append_assoc]

/-! ### Containers -/

namespace Value

theorem encode_document_eq_ok_iff {d : Document} {x : List UInt8} :
    (document d).encode = .ok x ↔ ∃ content, FrameOf d content ∧ x = 0x03 :: content := by
  simp only [encode_eq_ok_iff_body, body_document_eq_ok, frameOf_iff, tag]

theorem encode_array_eq_ok_iff {vs : List Value} {x : List UInt8} :
    (array vs).encode = .ok x ↔
      ∃ content, FrameOf (numbered 0 vs) content ∧ x = 0x04 :: content := by
  simp only [encode_eq_ok_iff_body, body_array_eq_ok, frameOf_iff, tag]

theorem encode_scopedCode_eq_ok_iff {source : String} {d : Document} {x : List UInt8} :
    (scopedCode source d).encode = .ok x ↔ ∃ scope content, FrameOf d scope ∧
      content = littleEndian 4 content.length ++ sized source ++ scope ∧ x = 0x0f :: content := by
  simp only [encode_eq_ok_iff_body, body_scopedCode_eq_ok, littleEndian_append_eq_iff, tag,
    List.append_assoc]
  constructor
  · rintro ⟨content, ⟨elements, helements, hcontent⟩, rfl⟩
    exact ⟨framed elements, content, frameOf_iff.mpr ⟨elements, helements, rfl⟩, hcontent, rfl⟩
  · rintro ⟨scope, content, hscope, hcontent, rfl⟩
    obtain ⟨elements, helements, rfl⟩ := frameOf_iff.mp hscope
    exact ⟨content, ⟨elements, helements, hcontent⟩, rfl⟩

/-! ### The document around a value -/

/-- The type byte and the body of a value stand where they are looked for. -/
theorem slices_of_encode_sole {v : Value} {frame : List UInt8}
    (h : Document.encode [("", v)] = .ok frame) :
    ∃ tag body, frame[4]? = some tag ∧ slice? 6 (frame.length - 1) frame = some body ∧
      v.encode = .ok (tag :: body) := by
  rw [Document.encode_sole] at h
  cases hbody : v.body with
  | error e =>
      rw [hbody] at h
      cases h
  | ok body =>
      rw [hbody] at h
      obtain rfl := Except.ok.inj h
      exact ⟨v.tag, body, getElem?_framed _ _, slice?_framed _ _,
        encode_eq_ok_iff_body.mpr ⟨body, hbody, rfl⟩⟩

/-- Containers can be written exactly when the values in them can, each on its own, and their keys
hold no U+0000.  The bytes are put together from those of the values, in an array with the positions
for keys, and lengths below 2^31 can be read off them.  A value that is written has been taken whole
out of the document around it. -/
theorem encode_containers_iff_frameOf :
    (∀ (d : Document) (x : List UInt8), (document d).encode = .ok x ↔
      ∃ content, FrameOf d content ∧ x = 0x03 :: content) ∧
    (∀ (vs : List Value) (x : List UInt8), (array vs).encode = .ok x ↔
      ∃ content, FrameOf (numbered 0 vs) content ∧ x = 0x04 :: content) ∧
    (∀ (source : String) (d : Document) (x : List UInt8), (scopedCode source d).encode = .ok x ↔
      ∃ scope content, FrameOf d scope ∧
        content = littleEndian 4 content.length ++ sized source ++ scope ∧ x = 0x0f :: content) ∧
    (∀ (d : Document) (content : List UInt8), FrameOf d content → content.length < Nat.pow 2 31 →
      ofLittleEndian (content.take 4) = content.length) ∧
    (∀ (v : Value) (frame : List UInt8), Document.encode [("", v)] = .ok frame →
      ∃ tag body, frame[4]? = some tag ∧ slice? 6 (frame.length - 1) frame = some body ∧
        v.encode = .ok (tag :: body)) := by
  refine ⟨fun d x => encode_document_eq_ok_iff, fun vs x => encode_array_eq_ok_iff,
    fun source d x => encode_scopedCode_eq_ok_iff, ?_, fun v frame => slices_of_encode_sole⟩
  rintro d content ⟨elements, _, hcontent⟩ hfits
  rw [List.append_assoc] at hcontent
  exact ofLittleEndian_take_eq_length hcontent hfits

/-- An array in a document, with an empty document in it, and a scope under the empty key. -/
theorem encode_containers_iff_frameOf_nested :
    let items : List Value := [document [], regex "p" "xi"]
    let d : Document := [("é", array items), ("", scopedCode "\x00" [("b", null)])]
    let inner : List UInt8 :=
      [21, 0, 0, 0, 3, 48, 0, 5, 0, 0, 0, 0, 11, 49, 0, 112, 0, 105, 120, 0, 0]
    let content : List UInt8 := [50, 0, 0, 0, 4, 195, 169, 0] ++ inner ++
      [15, 0, 18, 0, 0, 0, 2, 0, 0, 0, 0, 0, 8, 0, 0, 0, 10, 98, 0, 0, 0]
    let frame : List UInt8 := [57, 0, 0, 0, 3, 0] ++ content ++ [0]
    FrameOf (numbered 0 items) inner ∧ FrameOf d content ∧ content.length < Nat.pow 2 31 ∧
      ofLittleEndian (content.take 4) = 50 ∧ Document.encode [("", document d)] = .ok frame ∧
      frame[4]? = some 3 ∧ slice? 6 (frame.length - 1) frame = some content := by
  intro items d inner content frame
  have harray : (array items).encode = .ok (0x04 :: inner) := by decide +kernel
  have hdocument : (document d).encode = .ok (0x03 :: content) := by decide +kernel
  have hframe : Document.encode [("", document d)] = .ok frame := by decide +kernel
  have hfits : content.length < Nat.pow 2 31 := by decide
  obtain ⟨hdocuments, harrays, _, hlengths, hslices⟩ := encode_containers_iff_frameOf
  obtain ⟨_, hinner, heq⟩ := (harrays items _).mp harray
  obtain rfl := (List.cons.inj heq).2
  obtain ⟨_, hcontent, heq⟩ := (hdocuments d _).mp hdocument
  obtain rfl := (List.cons.inj heq).2
  obtain ⟨tag, body, htag, hbody, hencode⟩ := hslices _ frame hframe
  rw [hdocument] at hencode
  obtain ⟨rfl, rfl⟩ := List.cons.inj (Except.ok.inj hencode)
  exact ⟨hinner, hcontent, hfits, hlengths d content hcontent hfits, hframe, htag, hbody⟩

end Value
end DocFilter

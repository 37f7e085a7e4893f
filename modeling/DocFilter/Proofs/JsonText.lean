import DocFilter.Json.Reader
import DocFilter.Json.Writer
import DocFilter.Proofs.JsonNumerals
import Mathlib.Data.List.Forall2

/-! # JSON texts that are read back

A value is read back from its text when no doubles are in it and its whole numbers have at most 64
bits (`Json.read?_write`).  The statement that passes from items and members to lists and objects is
`Json.ReadsBack`: with enough fuel the reader takes from the front of a text what was written, and
leaves whatever follows, so long as that does not go on with a numeral.

Characters are escaped one by one, into one part each (`parts?_writeChar`).  No part is half of a
surrogate pair, so the parts of a text denote its characters one by one as well. -/

namespace DocFilter
namespace Json

/-! ### Texts between quotes -/

/-- Parts that the characters of a text are written as. -/
inductive Denotes : Part → Char → Prop
  | char (c : Char) : Denotes (.char c) c
  | unit {c : Char} : c.toNat < 0x20 → Denotes (.unit c.toNat) c

theorem unit?_fixed : ∀ n < 0x20,
    unit? (Text.Hex.digit (n / 16 / 16 / 16 % 16)) (Text.Hex.digit (n / 16 / 16 % 16))
      (Text.Hex.digit (n / 16 % 16)) (Text.Hex.digit (n % 16)) = some n := by
  decide

section
variable {rest r : List Char} {ps : List Part} (h : parts? rest = some (ps, r))
include h

theorem parts?_escaped {e c : Char} (he : escaped? e = some c) :
    parts? ('\\' :: e :: rest) = some (.char c :: ps, r) := by
  have hu : e ≠ 'u' := by
    rintro rfl
    cases he
  rw [parts?.eq_def]
  split
  case h_5 hnone heq =>
    obtain ⟨rfl, rfl⟩ := List.cons.inj heq
    exact absurd rfl (hnone e rest rfl)
  all_goals simp_all

theorem parts?_bare {c : Char} (hq : c ≠ '"') (hb : c ≠ '\\') (hc : 0x20 ≤ c.toNat) :
    parts? (c :: rest) = some (.char c :: ps, r) := by
  rw [parts?.eq_def]
  split <;> simp_all [bare]

theorem parts?_unit {n : Nat} (hn : n < 0x20) :
    parts? ('\\' :: 'u' :: (Text.Hex.fixed 4 n ++ rest)) = some (.unit n :: ps, r) := by
  simp [Text.Hex.fixed, parts?, unit?_fixed n hn, h]

end

/-- Every character is written as one part. -/
theorem parts?_writeChar (c : Char) : ∃ p, Denotes p c ∧
    ∀ {rest r : List Char} {ps : List Part}, parts? rest = some (ps, r) →
      parts? (writeChar c ++ rest) = some (p :: ps, r) := by
  unfold writeChar
  split
  iterate 7 exact ⟨.char _, .char _, fun h => parts?_escaped h rfl⟩
  next hq hb _ _ _ _ _ =>
    split
    · next hc => exact ⟨.unit c.toNat, .unit hc, fun h => parts?_unit h hc⟩
    · next hc => exact ⟨.char c, .char c, fun h => parts?_bare h hq hb (by omega)⟩

theorem parts?_flatMap (cs : List Char) : ∃ ps, List.Forall₂ Denotes ps cs ∧
    ∀ rest, parts? (cs.flatMap writeChar ++ '"' :: rest) = some (ps, rest) := by
  induction cs with
  | nil => exact ⟨[], .nil, fun rest => by simp [parts?]⟩
  | cons c cs ih =>
      obtain ⟨p, hp, hread⟩ := parts?_writeChar c
      obtain ⟨ps, hps, hreads⟩ := ih
      refine ⟨p :: ps, .cons hp hps, fun rest => ?_⟩
      rw [List.flatMap_cons, List.append_assoc]
      exact hread (hreads rest)

/-- A control character is no half of a pair. -/
theorem codePoints_unit {n : Nat} (hn : n < 0x20) (ps : List Part) :
    codePoints (.unit n :: ps) = n :: codePoints ps := by
  have hhigh : isHighSurrogate n = false := by
    simp [isHighSurrogate]
    omega
  obtain _ | ⟨_ | _ | m, ps⟩ := ps
  · rfl
  · rfl
  · rfl
  · rw [codePoints, hhigh]
    rfl

theorem codePoints_of_denotes {ps : List Part} {cs : List Char} (h : List.Forall₂ Denotes ps cs) :
    codePoints ps = cs.map Char.toNat := by
  induction h with
  | nil => rfl
  | cons hp _ ih =>
      cases hp with
      | char c => rw [codePoints, ih, List.map_cons]
      | unit hc => rw [codePoints_unit hc, ih, List.map_cons]

theorem any_isControl_of_denotes {ps : List Part} {cs : List Char}
    (h : List.Forall₂ Denotes ps cs) : ps.any isControl = false := by
  induction h with
  | nil => rfl
  | cons hp _ ih =>
      rw [List.any_cons, ih, Bool.or_false]
      cases hp <;> rfl

theorem isSurrogate_toNat (c : Char) : isSurrogate c.toNat = false := by
  have hvalid : c.toNat < 0xd800 ∨ 0xdfff < c.toNat ∧ c.toNat < 0x110000 := c.valid
  simp [isSurrogate, isHighSurrogate, isLowSurrogate]
  omega

theorem textOf?_toNat (cs : List Char) : textOf? (cs.map Char.toNat) = some (String.ofList cs) := by
  have hany : (cs.map Char.toNat).any isSurrogate = false := by
    simp [isSurrogate_toNat]
  have hmap : (cs.map Char.toNat).map Char.ofNat = cs := by
    simp [Function.comp_def]
  rw [textOf?, hany, hmap]
  rfl

/-- A text is read back, up to the quote that closes it. -/
theorem parts?_text (s : String) : ∃ ps, ps.any isControl = false ∧
    textOf? (codePoints ps) = some s ∧
    ∀ rest, parts? (s.toList.flatMap writeChar ++ '"' :: rest) = some (ps, rest) := by
  obtain ⟨ps, hps, hread⟩ := parts?_flatMap s.toList
  refine ⟨ps, any_isControl_of_denotes hps, ?_, hread⟩
  rw [codePoints_of_denotes hps, textOf?_toNat, String.ofList_toList]

theorem writeText_append (s : String) (rest : List Char) :
    writeText s ++ rest = '"' :: (s.toList.flatMap writeChar ++ '"' :: rest) := by
  simp [writeText]

theorem name?_text (s : String) (rest : List Char) :
    name? (s.toList.flatMap writeChar ++ '"' :: rest) = some (some s, rest) := by
  obtain ⟨ps, hcontrol, htext, hread⟩ := parts?_text s
  rw [name?, hread]
  show (if ps.any isControl then none else some (textOf? (codePoints ps), rest)) = _
  rw [hcontrol, htext]
  rfl

/-! ### Values -/

/-- Values without doubles, whose whole numbers fit in 64 bits. -/
inductive Plain : Json → Prop
  | null : Plain .null
  | bool (b : Bool) : Plain (.bool b)
  | int {n : Int} : -Int.pow 2 63 ≤ n → n < Int.pow 2 64 → Plain (.int n)
  | string (s : String) : Plain (.string s)
  | list {items : List Json} : (∀ j ∈ items, Plain j) → Plain (.list items)
  | object {members : List (String × Json)} : (∀ m ∈ members, Plain m.2) → Plain (.object members)

/-- Whether a value is read back from its text, whatever follows that is no part of a numeral. -/
def ReadsBack (j : Json) : Prop :=
  ∀ (fuel : Nat) (rest : List Char), 2 * j.writeChars.length ≤ fuel → EndsNumeral rest →
    value? fuel (j.writeChars ++ rest) = some (j, rest)

theorem endsNumeral_nil : EndsNumeral [] := fun _ h => nomatch h

theorem endsNumeral_cons {c : Char} (h : c ∈ [',', ']', '\x7d']) (rest : List Char) :
    EndsNumeral (c :: rest) := by
  intro c' hc
  obtain rfl := Option.some.inj hc
  simp only [List.mem_cons, List.not_mem_nil, or_false] at h
  obtain rfl | rfl | rfl := h <;> decide

theorem skipBlanks_cons {c : Char} (h : isBlank c = false) (cs : List Char) :
    skipBlanks (c :: cs) = c :: cs := by
  simp [skipBlanks, h]

theorem writeItems_cons (item next : Json) (items : List Json) :
    writeItems (item :: next :: items) = item.writeChars ++ ',' :: writeItems (next :: items) :=
  rfl

theorem writeMembers_cons (name : String) (value : Json) (next : String × Json)
    (members : List (String × Json)) :
    writeMembers ((name, value) :: next :: members) =
      writeText name ++ ':' :: value.writeChars ++ ',' :: writeMembers (next :: members) :=
  rfl

theorem items?_writeItems {items : List Json} (hne : items ≠ []) (h : ∀ j ∈ items, ReadsBack j)
    (fuel : Nat) (hfuel : 2 * (writeItems items).length + 1 ≤ fuel) (rest : List Char) :
    items? fuel (writeItems items ++ ']' :: rest) = some (items, rest) := by
  induction items generalizing fuel with
  | nil => exact absurd rfl hne
  | cons item items ih =>
      obtain _ | fuel := fuel
      · omega
      cases items with
      | nil =>
          rw [writeItems] at hfuel ⊢
          have hitem := h item (by simp) fuel (']' :: rest) (by omega)
            (endsNumeral_cons (by decide) rest)
          rw [items?, hitem]
          rfl
      | cons next items =>
          rw [writeItems_cons, List.length_append, List.length_cons] at hfuel
          have hitem := h item (by simp) fuel (',' :: (writeItems (next :: items) ++ ']' :: rest))
            (by omega) (endsNumeral_cons (by decide) _)
          have hitems := ih (by simp) (fun j hj => h j (by simp_all)) fuel (by omega)
          rw [writeItems_cons, List.append_assoc, List.cons_append, items?, hitem]
          simp [skipBlanks_cons, isBlank, hitems]

theorem members?_writeMembers {members : List (String × Json)} (hne : members ≠ [])
    (h : ∀ m ∈ members, ReadsBack m.2) (fuel : Nat)
    (hfuel : 2 * (writeMembers members).length + 1 ≤ fuel) (rest : List Char) :
    members? fuel (writeMembers members ++ '\x7d' :: rest) =
      some (members.map fun (name, value) => (some name, value), rest) := by
  induction members generalizing fuel with
  | nil => exact absurd rfl hne
  | cons member members ih =>
      obtain ⟨name, value⟩ := member
      obtain _ | fuel := fuel
      · omega
      cases members with
      | nil =>
          rw [writeMembers, List.length_append, List.length_cons] at hfuel
          have hvalue := h (name, value) (by simp) fuel ('\x7d' :: rest) (by dsimp only; omega)
            (endsNumeral_cons (by decide) rest)
          rw [writeMembers, List.append_assoc, writeText_append, members?]
          simp [skipBlanks_cons, isBlank, name?_text, hvalue]
      | cons next members =>
          rw [writeMembers_cons, List.length_append, List.length_append, List.length_cons,
            List.length_cons] at hfuel
          have hvalue := h (name, value) (by simp) fuel
            (',' :: (writeMembers (next :: members) ++ '\x7d' :: rest)) (by dsimp only; omega)
            (endsNumeral_cons (by decide) _)
          have hmembers := ih (by simp) (fun m hm => h m (by simp_all)) fuel (by omega)
          rw [writeMembers_cons, List.append_assoc, List.append_assoc, writeText_append, members?]
          simp [skipBlanks_cons, isBlank, name?_text, hvalue, hmembers]

theorem mapM_map_eq_some {α β : Type} {f : α → Option β} {g : β → α} (h : ∀ b, f (g b) = some b)
    (bs : List β) : (bs.map g).mapM f = some bs := by
  induction bs with
  | nil => rfl
  | cons b bs ih => simp [h, ih]

theorem ofMembers_some (members : List (String × Json)) :
    ofMembers (members.map fun (name, value) => (some name, value)) = .object members := by
  rw [ofMembers, mapM_map_eq_some]
  exact fun _ => rfl

theorem first_of_numeral {c : Char} (h : c = '-' ∨ (digit? c).isSome = true) :
    isBlank c = false ∧ c ∉ ['"', '[', ']', '\x7b', 'n', 't', 'f'] := by
  have hne : ∀ {d : Char}, ¬ (d = '-' ∨ (digit? d).isSome = true) → c ≠ d :=
    fun hd hcd => hd (hcd ▸ h)
  constructor
  · simp only [isBlank, Bool.or_eq_false_iff, beq_eq_false_iff_ne]
    exact ⟨⟨⟨hne (by decide), hne (by decide)⟩, hne (by decide)⟩, hne (by decide)⟩
  · simp only [List.mem_cons, List.not_mem_nil, or_false, not_or]
    exact ⟨hne (by decide), hne (by decide), hne (by decide), hne (by decide), hne (by decide),
      hne (by decide), hne (by decide)⟩

/-- A value begins with its first character, and that closes no list. -/
theorem Plain.writeChars_eq_cons {j : Json} (h : Plain j) :
    ∃ c cs, j.writeChars = c :: cs ∧ isBlank c = false ∧ c ≠ ']' := by
  cases h with
  | @int n _ _ =>
      obtain ⟨c, cs, hcs, hc⟩ := toList_toString_eq_cons n
      obtain ⟨hblank, hother⟩ := first_of_numeral hc
      exact ⟨c, cs, hcs, hblank, by rintro rfl; simp at hother⟩
  | bool b => cases b <;> exact ⟨_, _, rfl, rfl, by decide⟩
  | _ => exact ⟨_, _, rfl, rfl, by decide⟩

/-- What begins like a numeral is read as nothing else. -/
theorem value?_numeral (fuel : Nat) {c : Char} (cs : List Char)
    (hc : c = '-' ∨ (digit? c).isSome = true) {n : Numeral} {rest : List Char}
    (h : Numeral.read? (c :: cs) = some (n, rest)) :
    value? (fuel + 1) (c :: cs) = some (n.value, rest) := by
  obtain ⟨hblank, hother⟩ := first_of_numeral hc
  rw [value?, skipBlanks_cons hblank]
  split <;> simp_all

theorem value?_list_of_first (fuel : Nat) {c : Char} (cs : List Char) (hblank : isBlank c = false)
    (hc : c ≠ ']') {items : List Json} {rest : List Char}
    (h : items? fuel (c :: cs) = some (items, rest)) :
    value? (fuel + 1) ('[' :: c :: cs) = some (.list items, rest) := by
  rw [value?, skipBlanks_cons (by decide)]
  simp only [skipBlanks_cons hblank]
  split
  · next heq => exact absurd (List.cons.inj heq).1 hc
  · rw [h]
    rfl

theorem value?_object_of_quote (fuel : Nat) (cs : List Char)
    {members : List (Option String × Json)} {rest : List Char}
    (h : members? fuel ('"' :: cs) = some (members, rest)) :
    value? (fuel + 1) ('\x7b' :: '"' :: cs) = some (ofMembers members, rest) := by
  have hquote : skipBlanks ('"' :: cs) = '"' :: cs := skipBlanks_cons (by decide) cs
  rw [value?, skipBlanks_cons (by decide)]
  simp only [hquote]
  split
  · next heq => exact absurd (List.cons.inj heq).1 (by decide)
  · rw [h]
    rfl

/-- Whatever is written takes at least one step to read. -/
theorem readsBack_of_succ {j : Json} (hne : j.writeChars ≠ [])
    (h : ∀ (fuel : Nat) (rest : List Char), 2 * j.writeChars.length ≤ fuel + 1 → EndsNumeral rest →
      value? (fuel + 1) (j.writeChars ++ rest) = some (j, rest)) : ReadsBack j := by
  intro fuel rest hfuel hrest
  have := List.length_pos_of_ne_nil hne
  obtain _ | fuel := fuel
  · omega
  · exact h fuel rest hfuel hrest

theorem readsBack_int {n : Int} (hmin : -Int.pow 2 63 ≤ n) (hmax : n < Int.pow 2 64) :
    ReadsBack (.int n) := by
  obtain ⟨c, cs, hcs, hc⟩ := toList_toString_eq_cons n
  refine readsBack_of_succ (by rw [writeChars, hcs]; simp) fun fuel rest _ hrest => ?_
  have hread := Numeral.read?_toString n hrest
  rw [hcs, List.cons_append] at hread
  rw [writeChars, hcs, List.cons_append, value?_numeral fuel _ hc hread,
    Numeral.value_ofInt hmin hmax]

theorem readsBack_string (s : String) : ReadsBack (.string s) := by
  obtain ⟨ps, hcontrol, htext, hread⟩ := parts?_text s
  refine readsBack_of_succ (by simp [writeChars, writeText]) fun fuel rest _ _ => ?_
  have hparts : ofParts ps = .string s := by
    rw [ofParts, hcontrol]
    simp [htext]
  rw [writeChars, writeText_append, value?, skipBlanks_cons (by decide)]
  simp [hread, hparts]

theorem readsBack_list {items : List Json} (hplain : ∀ j ∈ items, Plain j)
    (h : ∀ j ∈ items, ReadsBack j) : ReadsBack (.list items) := by
  refine readsBack_of_succ (by simp [writeChars]) fun fuel rest hfuel _ => ?_
  have htext : (list items).writeChars ++ rest = '[' :: (writeItems items ++ ']' :: rest) := by
    simp [writeChars]
  rw [htext]
  cases items with
  | nil => rfl
  | cons item items =>
      have hread := items?_writeItems (List.cons_ne_nil item items) h fuel
        (by simp [writeChars] at hfuel; omega) rest
      -- The reader tells by the first character that the list is not empty.
      obtain ⟨c, cs, hcs, hblank, hclose⟩ : ∃ c cs, writeItems (item :: items) = c :: cs ∧
          isBlank c = false ∧ c ≠ ']' := by
        obtain ⟨c, cs, hcs, hc⟩ := (hplain item (by simp)).writeChars_eq_cons
        cases items with
        | nil => exact ⟨c, cs, hcs, hc⟩
        | cons next items => exact ⟨c, _, by rw [writeItems_cons, hcs, List.cons_append], hc⟩
      rw [hcs, List.cons_append] at hread ⊢
      exact value?_list_of_first fuel _ hblank hclose hread

theorem readsBack_object {members : List (String × Json)} (h : ∀ m ∈ members, ReadsBack m.2) :
    ReadsBack (.object members) := by
  refine readsBack_of_succ (by simp [writeChars]) fun fuel rest hfuel _ => ?_
  have htext : (object members).writeChars ++ rest =
      '\x7b' :: (writeMembers members ++ '\x7d' :: rest) := by
    simp [writeChars]
  rw [htext]
  cases members with
  | nil => rfl
  | cons member members =>
      have hread := members?_writeMembers (List.cons_ne_nil member members) h fuel
        (by simp [writeChars] at hfuel; omega) rest
      obtain ⟨cs, hcs⟩ : ∃ cs, writeMembers (member :: members) = '"' :: cs := by
        cases members <;> exact ⟨_, rfl⟩
      rw [hcs, List.cons_append] at hread ⊢
      rw [value?_object_of_quote fuel _ hread, ofMembers_some]

/-- Plain values are read back from their texts. -/
theorem readsBack_of_plain {j : Json} (h : Plain j) : ReadsBack j := by
  induction h with
  | null => exact readsBack_of_succ (by simp [writeChars]) fun _ _ _ _ => rfl
  | bool b => cases b <;> exact readsBack_of_succ (by simp [writeChars]) fun _ _ _ _ => rfl
  | int hmin hmax => exact readsBack_int hmin hmax
  | string s => exact readsBack_string s
  | list hplain ih => exact readsBack_list hplain ih
  | object _ ih => exact readsBack_object ih

theorem read?_write {j : Json} (h : Plain j) : read? j.write = some j := by
  have hread := readsBack_of_plain h (2 * j.writeChars.length + 2) [] (by omega) endsNumeral_nil
  rw [List.append_nil] at hread
  rw [read?, write, String.toList_ofList]
  dsimp only
  rw [hread]
  rfl

end Json
end DocFilter

import DocFilter.Json.Numeral

/-! # Whole numbers in JSON texts

A whole number is written in its decimal digits, behind a sign when it is negative.  The digits are
read back as the number they stand for (`Json.ofDigits_digitsOf`), and reading stops right behind
them where no other part of a numeral follows (`Json.Numeral.read?_toString`).  The numeral denotes
the number as long as that has at most 64 bits (`Json.Numeral.value_ofInt`). -/

namespace DocFilter
namespace Json

/-- Whether a text cannot go on with a numeral in front of it. -/
def EndsNumeral (rest : List Char) : Prop :=
  ∀ c, rest.head? = some c → digit? c = none ∧ c ≠ '.' ∧ c ≠ 'e' ∧ c ≠ 'E'

theorem isSome_digit? {c : Char} (h : c.isDigit = true) : (digit? c).isSome = true := by
  rw [digit?_eq, if_pos h]
  rfl

theorem isSome_digit?_of_mem {n : Nat} {c : Char} (h : c ∈ Nat.toDigits 10 n) :
    (digit? c).isSome = true :=
  isSome_digit? (Nat.isDigit_of_mem_toDigits (by decide) (by decide) h)

/-- The digits that a number is written with. -/
def digitsOf (n : Nat) : List Nat := (Nat.toDigits 10 n).filterMap digit?

theorem digit?_digitChar {k : Nat} (h : k < 10) : digit? k.digitChar = some k := by
  rw [digit?, Nat.toNat_digitChar_of_lt_ten h, if_pos (by omega), Nat.add_sub_cancel_left]

theorem digitsOf_of_lt {k : Nat} (h : k < 10) : digitsOf k = [k] := by
  rw [digitsOf, Nat.toDigits_of_lt_base h, List.filterMap_cons, digit?_digitChar h]
  rfl

theorem digitsOf_append {m k : Nat} (hm : 0 < m) (hk : k < 10) :
    digitsOf (10 * m + k) = digitsOf m ++ [k] := by
  have := digitsOf_of_lt hk
  rw [digitsOf, ← Nat.toDigits_append_toDigits (by decide) hm hk, List.filterMap_append]
  rw [digitsOf] at this
  rw [this, digitsOf]

theorem ofDigits_append (ds : List Nat) (d : Nat) :
    ofDigits (ds ++ [d]) = 10 * ofDigits ds + d := by
  rw [ofDigits, List.foldl_append]
  rfl

theorem ofDigits_digitsOf (n : Nat) : ofDigits (digitsOf n) = n := by
  induction n using Nat.base_induction 10 (by decide) with
  | single k hk => rw [digitsOf_of_lt hk]; simp [ofDigits]
  | digit m k hk hm ih => rw [digitsOf_append hm hk, ofDigits_append, ih]

theorem digitsOf_ne_nil (n : Nat) : digitsOf n ≠ [] := by
  cases n using Nat.base_induction 10 (by decide) with
  | single k hk => simp [digitsOf_of_lt hk]
  | digit m k hk hm => simp [digitsOf_append hm hk]

theorem head?_digitsOf {n : Nat} (hn : 0 < n) : ∃ d ds, digitsOf n = d :: ds ∧ d ≠ 0 := by
  induction n using Nat.base_induction 10 (by decide) with
  | single k hk => exact ⟨k, [], digitsOf_of_lt hk, by omega⟩
  | digit m k hk hm ih =>
      obtain ⟨d, ds, hds, hd⟩ := ih hm
      exact ⟨d, ds ++ [k], by rw [digitsOf_append hm hk, hds, List.cons_append], hd⟩

theorem spanDigits_toDigits (n : Nat) {rest : List Char} (h : EndsNumeral rest) :
    spanDigits (Nat.toDigits 10 n ++ rest) = (digitsOf n, rest) := by
  have hdigits : ∀ c ∈ Nat.toDigits 10 n, (digit? c).isSome = true := fun c => isSome_digit?_of_mem
  have htake : rest.takeWhile (digit? · |>.isSome) = [] ∧
      rest.dropWhile (digit? · |>.isSome) = rest := by
    cases rest with
    | nil => exact ⟨rfl, rfl⟩
    | cons c cs => simp [(h c rfl).1]
  rw [spanDigits, List.takeWhile_append_of_pos hdigits, List.dropWhile_append_of_pos hdigits,
    htake.1, htake.2, List.append_nil]
  rfl

theorem toList_toString_of_nonneg {n : Int} (h : 0 ≤ n) :
    (toString n).toList = Nat.toDigits 10 n.natAbs := by
  obtain ⟨m, rfl⟩ := Int.eq_ofNat_of_zero_le h
  exact Nat.toList_repr

theorem toList_toString_of_neg {n : Int} (h : n < 0) :
    (toString n).toList = '-' :: Nat.toDigits 10 n.natAbs := by
  obtain ⟨m, rfl⟩ := Int.eq_negSucc_of_lt_zero h
  have htext : toString (Int.negSucc m) = "-" ++ Nat.repr (m + 1) := rfl
  rw [htext, String.toList_append, Nat.toList_repr]
  rfl

theorem toDigits_eq_cons (n : Nat) :
    ∃ c cs, Nat.toDigits 10 n = c :: cs ∧ (digit? c).isSome = true := by
  cases h : Nat.toDigits 10 n with
  | nil => exact absurd h Nat.toDigits_ne_nil
  | cons c cs => exact ⟨c, cs, rfl, isSome_digit?_of_mem (n := n) (by simp [h])⟩

namespace Numeral

theorem digits?_toDigits (n : Nat) {rest : List Char} (h : EndsNumeral rest) :
    digits? (Nat.toDigits 10 n ++ rest) = some (digitsOf n, rest) := by
  rw [digits?, spanDigits_toDigits n h]
  split
  · next hnil =>
    exact absurd (Prod.mk.inj hnil).1 (digitsOf_ne_nil n)
  · next hr => rfl

theorem fraction?_of_endsNumeral {rest : List Char} (h : EndsNumeral rest) :
    fraction? rest = some (none, rest) := by
  unfold fraction?
  split
  · exact absurd rfl (h '.' rfl).2.1
  · rfl

theorem exponent?_of_endsNumeral {rest : List Char} (h : EndsNumeral rest) :
    exponent? rest = some (none, rest) := by
  cases rest with
  | nil => rfl
  | cons c cs =>
      obtain ⟨_, _, he, hE⟩ := h c rfl
      simp [exponent?, he, hE]

theorem not_leading_zero (n : Nat) :
    ¬ ((digitsOf n).length > 1 ∧ (digitsOf n).head? = some 0) := by
  rintro ⟨hlen, hhead⟩
  rcases Nat.eq_zero_or_pos n with rfl | hn
  · rw [digitsOf_of_lt (by decide)] at hlen
    simp at hlen
  · obtain ⟨d, ds, hds, hd⟩ := head?_digitsOf hn
    rw [hds] at hhead
    exact hd (Option.some.inj hhead)

/-- The numeral behind the sign. -/
def unsigned? (negative : Bool) (cs : List Char) : Option (Numeral × List Char) := do
  let (whole, cs) ← digits? cs
  if whole.length > 1 ∧ whole.head? = some 0 then none
  else
    let (fraction, cs) ← fraction? cs
    let (exponent, cs) ← exponent? cs
    return ({ negative, whole, fraction, exponent }, cs)

theorem read?_minus (cs : List Char) : read? ('-' :: cs) = unsigned? true cs := rfl

theorem read?_of_ne {c : Char} (hc : c ≠ '-') (cs : List Char) :
    read? (c :: cs) = unsigned? false (c :: cs) := by
  unfold read?
  split
  · next h =>
    split at h
    · next r hr => exact absurd (List.cons.inj hr).1 hc
    · cases h
      rfl

theorem unsigned?_toDigits (negative : Bool) (n : Nat) {rest : List Char} (h : EndsNumeral rest) :
    unsigned? negative (Nat.toDigits 10 n ++ rest) =
      some (⟨negative, digitsOf n, none, none⟩, rest) := by
  simp [unsigned?, digits?_toDigits n h, not_leading_zero, fraction?_of_endsNumeral h,
    exponent?_of_endsNumeral h]

/-- The numeral that a whole number is written as. -/
def ofInt (n : Int) : Numeral := ⟨decide (n < 0), digitsOf n.natAbs, none, none⟩

theorem value_ofInt {n : Int} (hmin : -Int.pow 2 63 ≤ n) (hmax : n < Int.pow 2 64) :
    (ofInt n).value = .int n := by
  have hlow : Int.pow 2 63 = 9223372036854775808 := rfl
  have hhigh : Int.pow 2 64 = 18446744073709551616 := rfl
  have hlow' : Nat.pow 2 63 = 9223372036854775808 := rfl
  have hhigh' : Nat.pow 2 64 = 18446744073709551616 := rfl
  rw [value, ofInt]
  simp only [ofDigits_digitsOf, hlow', hhigh', Option.isSome_none, Bool.false_eq_true, or_self,
    if_false, decide_eq_true_eq]
  by_cases hneg : n < 0
  · rw [if_pos hneg, if_pos (by omega), show -(n.natAbs : Int) = n by omega]
  · rw [if_neg hneg, if_pos (by omega), show (n.natAbs : Int) = n by omega]

theorem read?_toString (n : Int) {rest : List Char} (h : EndsNumeral rest) :
    read? ((toString n).toList ++ rest) = some (ofInt n, rest) := by
  by_cases hn : n < 0
  · rw [toList_toString_of_neg hn, List.cons_append, read?_minus, unsigned?_toDigits true _ h,
      ofInt, decide_eq_true hn]
  · obtain ⟨c, cs, hcs, hc⟩ := toDigits_eq_cons n.natAbs
    have hread := unsigned?_toDigits false n.natAbs h
    have hsign : c ≠ '-' := by
      rintro rfl
      exact absurd hc (by decide)
    rw [hcs, List.cons_append] at hread
    rw [toList_toString_of_nonneg (by omega), hcs, List.cons_append, read?_of_ne hsign, hread,
      ofInt, decide_eq_false hn]

end Numeral

/-- A numeral starts with a sign or a digit. -/
theorem toList_toString_eq_cons (n : Int) :
    ∃ c cs, (toString n).toList = c :: cs ∧ (c = '-' ∨ (digit? c).isSome = true) := by
  by_cases hn : n < 0
  · exact ⟨'-', _, toList_toString_of_neg hn, .inl rfl⟩
  · obtain ⟨c, cs, hcs, hc⟩ := toDigits_eq_cons n.natAbs
    exact ⟨c, cs, (toList_toString_of_nonneg (by omega)).trans hcs, .inr hc⟩

end Json
end DocFilter

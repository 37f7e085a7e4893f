import DocFilter.Number.Numeral
import Mathlib.Data.List.TakeWhile

/-! # Numerals that are read

A numeral is one or more ASCII digits, behind a plus sign or not (`IsNumeral`), and the decimal text
of a number is one for it (`isNumeral_toString`).  Digits are read from left to right, so that a
text is refused for its size as soon as the digits read denote too much, whatever comes behind them
(`readDigits_eq`).  From this follow the texts that are read as a number within a bound
(`readNat_eq_ok_iff`) and what is wrong with each of the others (`readNat_eq_error_iff`). -/

namespace DocFilter

/-! ### Numerals -/

/-- The text behind a plus sign, if there is one. -/
def withoutPlus : List Char → List Char
  | '+' :: digits => digits
  | cs => cs

theorem withoutPlus_eq_self {cs : List Char} (h : ∀ digits, cs ≠ '+' :: digits) :
    withoutPlus cs = cs := by
  unfold withoutPlus
  split
  · exact absurd rfl (h _)
  · rfl

/-- One or more ASCII digits, behind a plus sign or not, and the number that they denote. -/
def IsNumeral (cs : List Char) (n : Nat) : Prop :=
  ∃ sign digits, cs = sign ++ digits ∧ (sign = [] ∨ sign = ['+']) ∧ digits ≠ [] ∧
    (∀ c ∈ digits, c.isDigit = true) ∧ Nat.ofDigitChars 10 digits 0 = n

theorem isNumeral_iff {cs : List Char} {n : Nat} :
    IsNumeral cs n ↔ withoutPlus cs ≠ [] ∧ (withoutPlus cs).all Char.isDigit = true ∧
      Nat.ofDigitChars 10 (withoutPlus cs) 0 = n := by
  rw [List.all_eq_true]
  constructor
  · rintro ⟨sign, digits, rfl, rfl | rfl, hne, hdigits, hvalue⟩
    · have hsign : ∀ rest, digits ≠ '+' :: rest := by
        rintro rest rfl
        exact absurd (hdigits '+' List.mem_cons_self) (by decide)
      rw [List.nil_append, withoutPlus_eq_self hsign]
      exact ⟨hne, hdigits, hvalue⟩
    · exact ⟨hne, hdigits, hvalue⟩
  · intro h
    by_cases hsign : ∃ digits, cs = '+' :: digits
    · obtain ⟨digits, rfl⟩ := hsign
      exact ⟨['+'], digits, rfl, .inr rfl, h⟩
    · rw [withoutPlus_eq_self (not_exists.mp hsign)] at h
      exact ⟨[], cs, rfl, .inl rfl, h⟩

instance (cs : List Char) (n : Nat) : Decidable (IsNumeral cs n) :=
  decidable_of_iff _ isNumeral_iff.symm

theorem toList_toString (n : Nat) : (toString n).toList = Nat.toDigits 10 n := Nat.toList_repr

theorem isDigit_of_mem_toString {n : Nat} {c : Char} (h : c ∈ (toString n).toList) :
    c.isDigit = true := by
  rw [toList_toString] at h
  exact Nat.isDigit_of_mem_toDigits (by decide) (by decide) h

theorem toList_toString_ne_nil (n : Nat) : (toString n).toList ≠ [] := by
  rw [toList_toString]
  exact Nat.toDigits_ne_nil

/-- The decimal text of a number is a numeral for it. -/
theorem isNumeral_toString (n : Nat) : IsNumeral (toString n).toList n := by
  refine ⟨[], (toString n).toList, rfl, .inl rfl, toList_toString_ne_nil n,
    fun c => isDigit_of_mem_toString, ?_⟩
  rw [toList_toString, Nat.ofDigitChars_ten_toDigits]

/-- The number that the digits before any other character denote, a plus sign in front passed
over. -/
def leadingValue (cs : List Char) : Nat :=
  Nat.ofDigitChars 10 ((withoutPlus cs).takeWhile Char.isDigit) 0

theorem leadingValue_eq {cs : List Char} {n : Nat} (h : IsNumeral cs n) : leadingValue cs = n := by
  obtain ⟨_, hdigits, hvalue⟩ := isNumeral_iff.mp h
  rw [leadingValue, List.takeWhile_eq_self_iff.mpr (List.all_eq_true.mp hdigits), hvalue]

theorem isNumeral_leadingValue_iff {cs : List Char} : IsNumeral cs (leadingValue cs) ↔
    withoutPlus cs ≠ [] ∧ (withoutPlus cs).all Char.isDigit = true := by
  rw [isNumeral_iff, leadingValue]
  constructor
  · exact fun h => ⟨h.1, h.2.1⟩
  · exact fun h => ⟨h.1, h.2, by rw [List.takeWhile_eq_self_iff.mpr (List.all_eq_true.mp h.2)]⟩

/-! ### Reading numerals -/

/-- More digits make no smaller number. -/
theorem le_ofDigitChars (cs : List Char) (value : Nat) : value ≤ Nat.ofDigitChars 10 cs value := by
  induction cs generalizing value with
  | nil => exact Nat.le_refl value
  | cons c cs ih =>
      have := ih (10 * value + (c.toNat - '0'.toNat))
      rw [Nat.ofDigitChars_cons]
      omega

/-- Reading stops at the first character that is no digit, or before, as soon as the bound is
passed.  The induction is on the text, with any value within the bound that was read before. -/
theorem readDigits_eq {bound value : Nat} (hvalue : value ≤ bound) (cs : List Char) :
    readDigits bound value cs =
      if bound < Nat.ofDigitChars 10 (cs.takeWhile Char.isDigit) value then .error .tooLarge
      else if cs.all Char.isDigit then
        .ok (Nat.ofDigitChars 10 (cs.takeWhile Char.isDigit) value)
      else .error .invalidDigit := by
  induction cs generalizing value with
  | nil => simp [readDigits, Nat.not_lt.mpr hvalue]
  | cons c cs ih =>
      rw [readDigits, digit?_eq]
      cases hc : c.isDigit with
      | false => simp [hc, Nat.not_lt.mpr hvalue]
      | true =>
          simp only [List.takeWhile_cons_of_pos hc, Nat.ofDigitChars_cons, List.all_cons, hc,
            Bool.true_and, if_true]
          split
          · next hlarge =>
            have := le_ofDigitChars (cs.takeWhile Char.isDigit)
              (10 * value + (c.toNat - '0'.toNat))
            rw [if_pos (by omega)]
          · next hfits => exact ih (Nat.not_lt.mp hfits)

/-- A number is read as the digits in front denote it.  A text is refused for them, if that is too
much, or else because it is not a numeral. -/
theorem readNat_eq (bound : Nat) (s : String) : readNat bound s =
    if s.toList = [] then .error .empty
    else if bound < leadingValue s.toList then .error .tooLarge
    else if IsNumeral s.toList (leadingValue s.toList) then .ok (leadingValue s.toList)
    else .error .invalidDigit := by
  have hread := readDigits_eq (Nat.zero_le bound)
  simp only [isNumeral_leadingValue_iff]
  rw [readNat, leadingValue]
  split
  · next hs => rw [hs, if_pos rfl]
  · next hs => simp [hs, withoutPlus]
  · next digits hne hs =>
    have hne : digits ≠ [] := fun h => hne h
    rw [hread]
    simp [hs, withoutPlus, hne]
  · next hne _ hsign =>
    have hne : s.toList ≠ [] := fun h => hne h
    rw [hread, withoutPlus_eq_self hsign]
    simp [hne]

theorem readNat_eq_ok_iff {bound n : Nat} {s : String} :
    readNat bound s = .ok n ↔ IsNumeral s.toList n ∧ n ≤ bound := by
  rw [readNat_eq]
  split
  · next hempty =>
    refine iff_of_false nofun fun h => (isNumeral_iff.mp h.1).1 ?_
    rw [hempty]
    rfl
  · split
    · next hlarge =>
      refine iff_of_false nofun fun h => ?_
      rw [leadingValue_eq h.1] at hlarge
      omega
    · next hfits =>
      split
      · next hnumeral =>
        rw [Except.ok.injEq]
        constructor
        · rintro rfl
          exact ⟨hnumeral, Nat.not_lt.mp hfits⟩
        · exact fun h => leadingValue_eq h.1
      · next hnot =>
        refine iff_of_false nofun fun h => hnot ?_
        rw [leadingValue_eq h.1]
        exact h.1

/-- What is wrong with a text that is no numeral for a number of at most `bound`. -/
inductive Unreadable (bound : Nat) : List Char → NumeralFault → Prop
  | empty : Unreadable bound [] .empty
  | tooLarge {cs : List Char} : bound < leadingValue cs → Unreadable bound cs .tooLarge
  | invalidDigit {cs : List Char} : cs ≠ [] → leadingValue cs ≤ bound →
      (∀ n, ¬ IsNumeral cs n) → Unreadable bound cs .invalidDigit

theorem readNat_eq_error_iff {bound : Nat} {s : String} {fault : NumeralFault} :
    readNat bound s = .error fault ↔ Unreadable bound s.toList fault := by
  rw [readNat_eq]
  generalize s.toList = cs
  constructor
  · intro h
    split at h
    · next hempty =>
      cases h
      rw [hempty]
      exact .empty
    · next hne =>
      split at h
      · next hlarge =>
        cases h
        exact .tooLarge hlarge
      · next hfits =>
        split at h
        · cases h
        · next hnot =>
          cases h
          refine .invalidDigit hne (Nat.not_lt.mp hfits) fun n hn => hnot ?_
          rwa [leadingValue_eq hn]
  · rintro (_ | hlarge | ⟨hne, hfits, hnot⟩)
    · rfl
    · have hne : cs ≠ [] := by
        rintro rfl
        exact Nat.not_lt_zero bound hlarge
      rw [if_neg hne, if_pos hlarge]
    · rw [if_neg hne, if_neg (Nat.not_lt.mpr hfits), if_neg (hnot _)]

end DocFilter

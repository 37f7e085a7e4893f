/-! # Texts as bytes

`utf8` is the bytes of a text, `littleEndian` those of a number, least first.  As many bytes as are
asked for tell numbers apart only within their range (`ofLittleEndian_littleEndian`,
`littleEndian_add_pow`). -/

namespace DocFilter

/-- The UTF-8 bytes of a text. -/
def utf8 (s : String) : List UInt8 := s.toList.flatMap String.utf8EncodeChar

theorem utf8_append (s t : String) : utf8 (s ++ t) = utf8 s ++ utf8 t := by
  rw [utf8, String.toList_append, List.flatMap_append]
  rfl

/-- The lowest `width` bytes of a number, the least significant first. -/
def littleEndian : Nat → Nat → List UInt8
  | 0, _ => []
  | width + 1, n => UInt8.ofNat n :: littleEndian width (n / 256)

/-- The number that bytes denote, the least significant first. -/
def ofLittleEndian : List UInt8 → Nat
  | [] => 0
  | b :: rest => b.toNat + 256 * ofLittleEndian rest

@[simp] theorem length_littleEndian (width n : Nat) : (littleEndian width n).length = width := by
  induction width generalizing n with
  | zero => rfl
  | succ width ih => simp [littleEndian, ih]

/-- A number has the bytes of the one that exceeds it by the range of as many bytes. -/
theorem littleEndian_add_pow (width n : Nat) :
    littleEndian width (n + Nat.pow 256 width) = littleEndian width n := by
  induction width generalizing n with
  | zero => rfl
  | succ width ih =>
      have hpow : Nat.pow 256 (width + 1) = 256 * Nat.pow 256 width := Nat.pow_succ'
      have hbyte : UInt8.ofNat (n + 256 * Nat.pow 256 width) = UInt8.ofNat n := by
        rw [← UInt8.toNat_inj, UInt8.toNat_ofNat', UInt8.toNat_ofNat']
        exact Nat.add_mul_mod_self_left ..
      have hrest : (n + 256 * Nat.pow 256 width) / 256 = n / 256 + Nat.pow 256 width :=
        Nat.add_mul_div_left _ _ (by decide)
      rw [hpow, littleEndian, littleEndian, hbyte, hrest, ih]

theorem ofLittleEndian_littleEndian (width n : Nat) :
    ofLittleEndian (littleEndian width n) = n % Nat.pow 256 width := by
  induction width generalizing n with
  | zero => simp [littleEndian, ofLittleEndian, Nat.mod_one]
  | succ width ih =>
      have h : (UInt8.ofNat n).toNat = n % 256 := by simp
      rw [littleEndian, ofLittleEndian, ih, h, Nat.pow_eq, Nat.pow_eq, Nat.pow_succ', Nat.mod_mul]

end DocFilter

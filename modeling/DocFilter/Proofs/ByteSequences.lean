import DocFilter.Proofs.Order

/-! # Sequences of bytes

What is computed of canonical bytes: their order and their digest.

The order is the lexicographic one on lists of bytes (`bytesLess_iff_lt`) and has its laws from
there.  All ways to compare bytes, as sequences or as canonical bytes, agree with it, and only equal
bytes compare as equal (`bytesLess_lexicographic`).

The digest takes one byte after the other into a word of 64 bits.  The prime that it multiplies by
is odd and so has an inverse, with which a byte can be taken out again (`fingerprintUndo`), and a
whole sequence from its last byte on (`foldr_fingerprintUndo`).  Therefore nothing that comes later
hides a difference, and the digest depends on every byte (`fingerprint_depends_on_every_byte`). -/

namespace DocFilter

/-! ### The order -/

theorem bytesLess_iff_lt (as bs : List UInt8) : bytesLess as bs = true ↔ as < bs := by
  induction as generalizing bs with
  | nil => cases bs <;> simp [bytesLess]
  | cons a as ih =>
      cases bs with
      | nil => simp [bytesLess]
      | cons b bs =>
          rw [bytesLess, List.cons_lt_cons_iff]
          by_cases hab : a = b
          · simp [hab, ih]
          · simp [hab]

theorem CanonicalBytes.compare_eq_iff (x y : CanonicalBytes) : x.compare y = .eq ↔ x = y := by
  obtain ⟨as⟩ := x
  obtain ⟨bs⟩ := y
  rw [compare_eq, Std.compare_eq_iff_eq, mk.injEq]

theorem CanonicalBytes.compare_eq_lt_iff (x y : CanonicalBytes) :
    x.compare y = .lt ↔ x.less y = true := by
  rw [compare_eq, less, bytesLess_iff]

theorem CanonicalBytes.compare_eq_gt_iff (x y : CanonicalBytes) :
    x.compare y = .gt ↔ x.greater y = true := by
  rw [compare_eq, greater, bytesGreater, bytesLess_iff, Std.OrientedOrd.eq_swap (a := y.bytes),
    Ordering.swap_eq_lt]

/-- The order of bytes is the lexicographic one, which is strict and total.  The first byte that
differs decides, as a number without a sign, or else the length.  The order of canonical bytes is
the same, however it is asked for.  Only equal bytes are neither less nor greater, and they have the
same hash. -/
theorem bytesLess_lexicographic :
    (∀ as bs : List UInt8, bytesLess as bs = true ↔
      (as <+: bs ∧ as.length < bs.length) ∨
        ∃ (i : Nat) (hi : i < as.length) (hi' : i < bs.length),
          (∀ (j : Nat) (hj : j < i), as[j] = bs[j]) ∧ as[i].toNat < bs[i].toNat) ∧
    (∀ as : List UInt8, bytesLess as as = false) ∧
    (∀ as bs cs : List UInt8, bytesLess as bs = true → bytesLess bs cs = true →
      bytesLess as cs = true) ∧
    (∀ as bs : List UInt8, bytesLess as bs = true ∨ as = bs ∨ bytesLess bs as = true) ∧
    (∀ as bs : List UInt8, bytesGreater as bs = bytesLess bs as) ∧
    (∀ x y : CanonicalBytes,
      x.less y = bytesLess x.bytes y.bytes ∧ x.greater y = bytesGreater x.bytes y.bytes ∧
      (x.compare y = .lt ↔ x.less y = true) ∧ (x.compare y = .gt ↔ x.greater y = true) ∧
      (x.compare y = .eq ↔ (x == y) = true) ∧ x.compare? y = some (x.compare y) ∧
      ((x == y) = true → x.hashWords = y.hashWords)) := by
  refine ⟨fun as bs => ?_, fun as => ?_, fun as bs cs => ?_, fun as bs => ?_, fun _ _ => rfl,
    fun x y => ⟨rfl, rfl, x.compare_eq_lt_iff y, x.compare_eq_gt_iff y, ?_, rfl, fun h => ?_⟩⟩
  · rw [bytesLess_iff_lt, List.lt_iff_exists, List.prefix_iff_eq_take]
    rfl
  · rw [← Bool.not_eq_true, bytesLess_iff_lt]
    exact List.lt_irrefl as
  · rw [bytesLess_iff_lt, bytesLess_iff_lt, bytesLess_iff_lt]
    exact List.lt_trans
  · rw [bytesLess_iff, bytesLess_iff, Std.OrientedOrd.eq_swap (a := bs), Ordering.swap_eq_lt,
      ← Std.compare_eq_iff_eq (a := as)]
    cases Ord.compare as bs <;> simp
  · rw [CanonicalBytes.compare_eq_iff, beq_iff_eq]
  · rw [beq_iff_eq.mp h]

/-- Bytes above 127, a beginning, and the options of a pattern in two orders. -/
theorem bytesLess_lexicographic_unsigned :
    let as : List UInt8 := [0x7f, 0xff]
    let bs : List UInt8 := [0x80]
    let cs : List UInt8 := [0x80, 0x00]
    bytesLess as bs = true ∧ bytesLess bs cs = true ∧ bytesLess as cs = true ∧
      ∃ x y : CanonicalBytes, CanonicalBytes.encode (.regex "p" "xi") = .ok x ∧
        CanonicalBytes.encode (.regex "p" "ix") = .ok y ∧ (x == y) = true ∧
        x.hashWords = y.hashWords := by
  intro as bs cs
  obtain ⟨hless, _, htrans, _, _, hbytes⟩ := bytesLess_lexicographic
  have hfirst : bytesLess as bs = true :=
    (hless as bs).mpr (.inr ⟨0, by decide, by decide, by simp, by decide⟩)
  have hprefix : bytesLess bs cs = true := (hless bs cs).mpr (.inl (by decide))
  refine ⟨hfirst, hprefix, htrans as bs cs hfirst hprefix, ?_⟩
  let x : CanonicalBytes := ⟨[0x0b, 0x70, 0x00, 0x69, 0x78, 0x00]⟩
  obtain ⟨_, _, _, _, _, _, hhash⟩ := hbytes x x
  exact ⟨x, x, by decide +kernel, by decide +kernel, by decide, hhash (by decide)⟩

/-! ### The digest -/

/-- The inverse of the prime among the words of 64 bits. -/
def fingerprintInverse : UInt64 := 0xce965057aff6957b

theorem prime_mul_inverse : fingerprintPrime * fingerprintInverse = 1 := by decide

/-- The digest before a byte was taken in. -/
def fingerprintUndo (byte : UInt8) (hash : UInt64) : UInt64 :=
  (hash * fingerprintInverse) ^^^ byte.toUInt64

theorem fingerprintStep_mul_inverse (hash : UInt64) (byte : UInt8) :
    fingerprintStep hash byte * fingerprintInverse = hash ^^^ byte.toUInt64 := by
  rw [fingerprintStep, UInt64.mul_assoc, prime_mul_inverse, UInt64.mul_one]

theorem fingerprintUndo_step (hash : UInt64) (byte : UInt8) :
    fingerprintUndo byte (fingerprintStep hash byte) = hash := by
  rw [fingerprintUndo, fingerprintStep_mul_inverse, UInt64.xor_assoc, UInt64.xor_self,
    UInt64.xor_zero]

/-- One step tells bytes apart. -/
theorem fingerprintStep_byte_inj {hash : UInt64} {x y : UInt8} :
    fingerprintStep hash x = fingerprintStep hash y ↔ x = y := by
  constructor
  · intro heq
    have hxor : hash ^^^ x.toUInt64 = hash ^^^ y.toUInt64 := by
      rw [← fingerprintStep_mul_inverse, heq, fingerprintStep_mul_inverse]
    exact UInt8.toUInt64_inj.mp ((UInt64.xor_right_inj hash).mp hxor)
  · rintro rfl
    rfl

/-- A sequence is taken out of a digest by taking out its bytes, the last one first. -/
theorem foldr_fingerprintUndo (hash : UInt64) (bytes : List UInt8) :
    bytes.foldr fingerprintUndo (bytes.foldl fingerprintStep hash) = hash := by
  induction bytes generalizing hash with
  | nil => rfl
  | cons byte bytes ih =>
      rw [List.foldl_cons, List.foldr_cons, ih, fingerprintUndo_step]

theorem foldl_fingerprintStep_inj {g h : UInt64} (bytes : List UInt8) :
    bytes.foldl fingerprintStep g = bytes.foldl fingerprintStep h ↔ g = h := by
  constructor
  · intro heq
    rw [← foldr_fingerprintUndo g bytes, heq, foldr_fingerprintUndo]
  · rintro rfl
    rfl

theorem fingerprint_append (p s : List UInt8) :
    fingerprint (p ++ s) = s.foldl fingerprintStep (fingerprint p) := List.foldl_append

/-- A byte in any place of a sequence can be told from the digest, if all others are known, and
bytes that are put behind two sequences keep their digests different or equal. -/
theorem fingerprint_depends_on_every_byte (p s : List UInt8) :
    (∀ x y : UInt8, fingerprint (p ++ [x] ++ s) = fingerprint (p ++ [y] ++ s) ↔ x = y) ∧
    (∀ q : List UInt8, fingerprint (p ++ s) = fingerprint (q ++ s) ↔
      fingerprint p = fingerprint q) := by
  have hsuffix (p q s : List UInt8) :
      fingerprint (p ++ s) = fingerprint (q ++ s) ↔ fingerprint p = fingerprint q := by
    rw [fingerprint_append, fingerprint_append, foldl_fingerprintStep_inj]
  refine ⟨fun x y => ?_, fun q => hsuffix p q s⟩
  rw [hsuffix, fingerprint_append, fingerprint_append]
  exact fingerprintStep_byte_inj

end DocFilter

/-
  Doubles and their bits.

  A double is made from its bits, and as long as those are finite it has just the bits that it was made
  from (`toBits_ofBits`).  So the double nearest to an integer below zero stands for a value below zero
  (`value?_of_floatOfInt?`): rounding does not carry a number across zero, and not to zero either.

  Sums are taken on unpacked doubles.  One of them finite and the other one defined, the sum is defined
  (`place?_add_ne_none`), though it may be too large to be finite.
-/
import Relaunch.Proofs.Order
import Mathlib

namespace Relaunch.Number

/-! ## Bits -/

section Bits

open Float.Model

/-- The exponent field of the library is the one read off the bits here. -/
theorem unpackExponent_toNat (bits : UInt64) :
    (@UnpackedFloat.unpackExponent Format.binary64 bits.toBitVec).toNat =
      exponentBits bits.toNat := by
  rw [UnpackedFloat.unpackExponent_def, BitVec.extractLsb'_toNat, Nat.shiftRight_eq_div_pow]
  rfl

/-- Finite bits are the bits of the double made from them. -/
theorem toBits_ofBits {bits : UInt64} (finite : exponentBits bits.toNat < 2047) :
    (Float.ofBits bits).toBits = bits := by
  have hexponent : @UnpackedFloat.unpackExponent Format.binary64 bits.toBitVec ≠ -1 := by
    intro hones
    rw [← unpackExponent_toNat, hones] at finite
    exact absurd finite (by decide)
  have hvalid : Format.binary64.Valid bits.toBitVec := ⟨fun hones _ => absurd hones hexponent⟩
  exact congrArg UInt64.ofBitVec (UnpackedFloat.pack_unpack_of_valid hvalid)

end Bits

/-- Bits with the sign set, that are not those of zero or of an infinity, stand for a value below
zero. -/
theorem ofBits_of_negative {bits : Nat} (negative : signBit bits = true)
    (normal : 0 < exponentBits bits) (finite : exponentBits bits < 2047) :
    ∃ m e, Exact.ofBits bits = .dyadic m e ∧ m < 0 := by
  refine ⟨-((twoTo 52 + fractionBits bits : Nat) : Int), (exponentBits bits : Int) - 1075, ?_, ?_⟩
  · unfold Exact.ofBits
    rw [negative]
    dsimp only
    split
    · omega
    · omega
    · rfl
  · have := twoTo_pos 52
    omega

/-! ## Doubles made from integers -/

theorem le_binaryExponent (n : Nat) : -1 ≤ binaryExponent n 1 := by
  have hden : (1 : Nat).log2 = 0 := rfl
  unfold binaryExponent
  dsimp only
  rw [hden]
  split <;> omega

/-- The bits of the double nearest to a positive integer are those of a normal double at least. -/
theorem le_nearestBits {n : Nat} (h : 0 < n) : twoTo 52 ≤ nearestBits n 1 := by
  have hexponent := le_binaryExponent n
  have hunit : 1 ≤ (max (binaryExponent n 1 - 52) (-1074) + 1074).toNat := by omega
  have hscaled := Nat.mul_le_mul_right (twoTo 52) hunit
  unfold nearestBits
  rw [if_neg (by omega)]
  dsimp only
  rw [Nat.le_min]
  exact ⟨by omega, by decide⟩

/-- Rounding never goes beyond the bits of infinity. -/
theorem nearestBits_le (num den : Nat) : nearestBits num den ≤ 2047 * twoTo 52 := by
  unfold nearestBits
  split
  · exact Nat.zero_le _
  · exact Nat.min_le_right ..

/-- Normal bits with the sign set make a double that stands for a value below zero. -/
theorem value?_of_negative {bits : Nat} (low : twoTo 52 ≤ bits) (high : bits < 2047 * twoTo 52) :
    ∃ q, (float (.ofBits (UInt64.ofNat (bits + twoTo 63)))).value? = some q ∧ q < 0 := by
  have h11 : twoTo 11 = 2048 := rfl
  have h52 : twoTo 52 = 4503599627370496 := rfl
  have h63 : twoTo 63 = 9223372036854775808 := rfl
  rw [h52] at low high
  have htoNat : (UInt64.ofNat (bits + twoTo 63)).toNat = bits + twoTo 63 := by
    rw [UInt64.toNat_ofNat', h63]
    omega
  have hexponent : exponentBits (bits + twoTo 63) = bits / 4503599627370496 := by
    rw [exponentBits, h11, h52, h63]
    omega
  have hsign : signBit (bits + twoTo 63) = true := by
    rw [signBit, beq_iff_eq, h63]
    omega
  obtain ⟨m, e, hexact, hm⟩ := ofBits_of_negative hsign (by rw [hexponent]; omega)
    (by rw [hexponent]; omega)
  refine ⟨m * 2 ^ e, ?_, mul_neg_of_neg_of_pos (by exact_mod_cast hm) (by positivity)⟩
  rw [value?, exact, Exact.ofFloat, toBits_ofBits (by rw [htoNat, hexponent]; omega), htoNat, hexact]

/-- The double nearest to an integer below zero stands for a value below zero. -/
theorem value?_of_floatOfInt? {n : Int} {x : Float} (h : floatOfInt? n = some x) (negative : n < 0) :
    ∃ q, (float x).value? = some q ∧ q < 0 := by
  unfold floatOfInt? at h
  split at h
  · exact absurd h (by simp)
  · rename_i hsmall
    have hne : nearestBits n.natAbs 1 ≠ 2047 * twoTo 52 := by simpa [tooLargeForDouble] using hsmall
    have hle := nearestBits_le n.natAbs 1
    rw [Option.some.injEq, nearest, decide_eq_true negative, if_pos rfl] at h
    rw [← h]
    exact value?_of_negative (le_nearestBits (Int.natAbs_pos.mpr negative.ne)) (by omega)

/-- What is a multiple of its unit is an integer, and scaling it finds that. -/
theorem cast_scaled {m e : Int} (whole : m % twoTo (-e).toNat = 0) :
    ((m * twoTo e.toNat / twoTo (-e).toNat : Int) : ℚ) = m * 2 ^ e := by
  have hdvd : (twoTo (-e).toNat : Int) ∣ m * twoTo e.toNat :=
    Dvd.dvd.mul_right (Int.dvd_of_emod_eq_zero whole) _
  have hunit : ((twoTo (-e).toNat : Int) : ℚ) ≠ 0 := by
    exact_mod_cast (twoTo_pos _).ne'
  have he : e = (e.toNat : Int) - ((-e).toNat : Int) := by omega
  rw [Int.cast_div hdvd hunit, Int.cast_mul, Int.cast_natCast, Int.cast_natCast, cast_twoTo,
    cast_twoTo, mul_div_assoc]
  conv_rhs => rw [he, zpow_sub₀ two_ne_zero, zpow_natCast, zpow_natCast]

/-! ## Sums of doubles -/

section Sums

open Float.Model
open Float.Model.UnpackedFloat (unpackExponent unpackMantissa)

theorem unpackMantissa_toNat (bits : UInt64) :
    (@unpackMantissa Format.binary64 bits.toBitVec).toNat = fractionBits bits.toNat := by
  rw [unpackMantissa, BitVec.toNat_cast, BitVec.extractLsb, BitVec.extractLsb'_toNat]
  rfl

/-- The exponent field of a double is all ones just if it is so when unpacked. -/
theorem unpackExponent_eq_ones {x : Float} :
    @unpackExponent Format.binary64 x.toBits.toBitVec = -1#_ ↔
      exponentBits x.toBits.toNat = 2047 := by
  rw [← unpackExponent_toNat, ← BitVec.toNat_inj]
  rfl

/-- Undefined is what has the largest exponent and a fraction besides. -/
theorem ofBits_eq_undefined {bits : Nat} :
    Exact.ofBits bits = .undefined ↔ exponentBits bits = 2047 ∧ fractionBits bits ≠ 0 := by
  unfold Exact.ofBits
  dsimp only
  split <;> rename_i h
  · split <;> simp_all
  · simp [h]
  · simp_all

theorem unpack_eq_notANumber {format : Format} {bits : BitVec format.numBits} :
    UnpackedFloat.unpack format bits = .notANumber ↔
      unpackExponent bits = -1#_ ∧ unpackMantissa bits ≠ 0#_ := by
  unfold UnpackedFloat.unpack
  dsimp only
  by_cases hexponent : unpackExponent bits = -1#_
  · rw [if_pos hexponent]
    split <;> simp_all
  · rw [if_neg hexponent]
    split
    · split <;> simp_all
    · simp_all

/-- A double stands for nothing just if it is not a number. -/
theorem ofFloat_eq_undefined {x : Float} :
    Exact.ofFloat x = .undefined ↔ x.toModel.unpack = .notANumber := by
  have hzero : @unpackMantissa Format.binary64 x.toBits.toBitVec = 0#_ ↔
      fractionBits x.toBits.toNat = 0 := by
    rw [← unpackMantissa_toNat, ← BitVec.toNat_inj]
    rfl
  rw [Exact.ofFloat, ofBits_eq_undefined, ← unpackExponent_eq_ones, ne_eq, ← hzero]
  exact unpack_eq_notANumber.symm

theorem unpack_isFinite {x : Float} (finite : exponentBits x.toBits.toNat ≠ 2047) :
    x.toModel.unpack.isFinite = true := by
  have hexponent : @unpackExponent Format.binary64 x.toBits.toBitVec ≠ -1#_ :=
    mt unpackExponent_eq_ones.mp finite
  show (UnpackedFloat.unpack Format.binary64 x.toBits.toBitVec).isFinite = true
  unfold UnpackedFloat.unpack
  dsimp only
  rw [if_neg hexponent]
  split
  · split <;> rfl
  · rfl

/-- What is not packed as undefined does not become so: too large a number is packed as an infinity. -/
theorem unpack_pack_ne {f : UnpackedFloat} (h : f ≠ .notANumber) :
    UnpackedFloat.unpack Format.binary64 (UnpackedFloat.pack Format.binary64 f) ≠ .notANumber := by
  rw [Ne, unpack_eq_notANumber]
  fun_cases UnpackedFloat.pack Format.binary64 f with
  | case1 => exact absurd rfl h
  | case2 s => simp [UnpackedFloat.packedInfinity]
  | case3 s => simp [UnpackedFloat.packedZero]
  | case4 s m e hm biased large => simp [UnpackedFloat.packedInfinity]
  | case5 s m e hm actual biased room normal =>
    have hbiased : biased + 1 < 2048 := Nat.lt_of_not_le room
    have hexponent : BitVec.ofNat Format.binary64.exponentBits biased ≠ -1#_ := by
      intro hones
      have htoNat := congrArg BitVec.toNat hones
      have hmax : (-1#_ : BitVec Format.binary64.exponentBits).toNat = 2047 := rfl
      have hmod : (BitVec.ofNat Format.binary64.exponentBits biased).toNat = biased % 2048 := rfl
      omega
    exact fun h => hexponent (by simpa using h.1)
  | case6 s m e hm actual biased room subnormal => simp

/-- Rounding gives a number, or an infinity where it is too large. -/
theorem round_ne (s : UnpackedFloat.Sign) (m : Nat) (e : Int) :
    UnpackedFloat.round Format.binary64 s m e ≠ .notANumber := by
  unfold UnpackedFloat.round UnpackedFloat.roundWithAccuracy
  dsimp only
  split <;> simp

/-- Only infinities of opposite sign have a sum that is undefined. -/
theorem add_ne {a b : UnpackedFloat} (defined : a ≠ .notANumber) (finite : b.isFinite = true) :
    UnpackedFloat.add Format.binary64 a b ≠ .notANumber := by
  cases b with
  | infinity => simp [UnpackedFloat.isFinite] at finite
  | notANumber => simp [UnpackedFloat.isFinite] at finite
  | zero s =>
    cases a with
    | notANumber => exact absurd rfl defined
    | infinity => simp [UnpackedFloat.add]
    | finite => simp [UnpackedFloat.add]
    | zero =>
      simp only [UnpackedFloat.add]
      split <;> simp
  | finite s m e hm =>
    cases a with
    | notANumber => exact absurd rfl defined
    | infinity => simp [UnpackedFloat.add]
    | zero => simp [UnpackedFloat.add]
    | finite =>
      simp only [UnpackedFloat.add, UnpackedFloat.normalize]
      split
      · exact round_ne _ _ _
      · simp
      · exact round_ne _ _ _

/-- What the bits of a finite double look like, and how large its value can be. -/
theorem bounds_of_dyadic {bits : Nat} {m e : Int} (h : Exact.ofBits bits = .dyadic m e) :
    exponentBits bits ≠ 2047 ∧ m < twoTo 53 ∧ e ≤ 971 := by
  have h53 : twoTo 53 = twoTo 52 + twoTo 52 := rfl
  have hfraction : fractionBits bits < twoTo 52 := Nat.mod_lt _ (twoTo_pos 52)
  have hfield : exponentBits bits < 2048 := Nat.mod_lt _ (by decide)
  unfold Exact.ofBits at h
  dsimp only at h
  split at h
  · split at h <;> exact Exact.noConfusion h
  · rename_i hzero
    obtain ⟨rfl, rfl⟩ := Exact.dyadic.inj h
    refine ⟨by omega, ?_, by omega⟩
    split <;> omega
  · rename_i hones hzero
    have hfinite : exponentBits bits ≠ 2047 := hones
    obtain ⟨rfl, rfl⟩ := Exact.dyadic.inj h
    refine ⟨hfinite, ?_, by omega⟩
    split <;> omega

/-- The double has a value just if it stands for an integer times a power of two. -/
theorem exists_dyadic {x : Float} {q : ℚ} (h : (float x).value? = some q) :
    ∃ m e : Int, Exact.ofBits x.toBits.toNat = .dyadic m e ∧ q = m * 2 ^ e := by
  rw [value?, exact, Exact.ofFloat] at h
  split at h
  · rename_i m e hexact
    exact ⟨m, e, hexact, (Option.some.inj h).symm⟩
  · exact absurd h (by simp)

/-- **A sum of doubles is defined** if both are, and one of them is finite. -/
theorem place?_add_ne_none {x y : Float} {q : ℚ} (defined : (float x).place? ≠ none)
    (finite : (float y).value? = some q) : (float (x + y)).place? ≠ none := by
  have hundefined : ∀ {z : Float}, (float z).place? = none ↔ Exact.ofFloat z = .undefined := by
    intro z
    rw [place?, exact]
    split <;> simp_all
  obtain ⟨m, e, hexact, -⟩ := exists_dyadic finite
  rw [Ne, hundefined, ofFloat_eq_undefined] at defined ⊢
  exact unpack_pack_ne (add_ne defined (unpack_isFinite (bounds_of_dyadic hexact).1))

/-- A double that is past this power is an infinity. -/
theorem lt_of_value? {x : Float} {q : ℚ} (h : (float x).value? = some q) : q < 2 ^ 1024 := by
  obtain ⟨m, e, hexact, rfl⟩ := exists_dyadic h
  obtain ⟨-, hm, he⟩ := bounds_of_dyadic hexact
  have hm' : (m : ℚ) < 2 ^ 53 := by
    rw [← cast_twoTo]
    exact_mod_cast hm
  calc (m : ℚ) * 2 ^ e < 2 ^ 53 * 2 ^ e := mul_lt_mul_of_pos_right hm' (by positivity)
    _ ≤ 2 ^ 53 * 2 ^ (971 : Int) :=
        mul_le_mul_of_nonneg_left (zpow_le_zpow_right₀ one_le_two he) (by positivity)
    _ = 2 ^ 1024 := by
        rw [← zpow_natCast, ← zpow_natCast, ← zpow_add₀ two_ne_zero]
        rfl

end Sums

end Relaunch.Number

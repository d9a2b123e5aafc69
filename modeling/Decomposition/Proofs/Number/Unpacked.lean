import Decomposition.Proofs.Number.Exact

namespace Decomposition.Binary64
open Float.Model Float.Model.UnpackedFloat

def Value.ofUnpacked : UnpackedFloat → Value
  | .notANumber => .nan
  | .infinity sign => .infinite (sign == .negative)
  | .zero sign => .finite ⟨sign == .negative, 0, -1074⟩
  | .finite sign significand exponent _ => .finite ⟨sign == .negative, significand, exponent⟩

theorem sign_eq_negative (bit : BitVec 1) :
    (Sign.ofBitVec bit == .negative) = (bit.toNat == 1) := by
  revert bit
  decide

theorem toNat_implicitBit (fraction : BitVec 52) :
    (1#1 ++ fraction).toNat = twoTo 52 + fraction.toNat := by
  rw [BitVec.toNat_append, ← Nat.shiftLeft_add_eq_or_of_lt fraction.isLt]
  rfl

section Fields
variable (word : BitVec Format.binary64.numBits)

theorem toNat_unpackMantissa : (unpackMantissa word).toNat = word.toNat % twoTo 52 := by
  simp [unpackMantissa, twoTo]

theorem toNat_unpackExponent :
    (unpackExponent word).toNat = word.toNat / twoTo 52 % 2048 := by
  simp [unpackExponent, twoTo, Nat.shiftRight_eq_div_pow]

theorem toNat_unpackSign : (unpackSign word).toNat = word.toNat / twoTo 63 % 2 := by
  change (word.extractLsb 63 63).toNat = _
  rw [BitVec.extractLsb_toNat, Nat.shiftRight_eq_div_pow]
  rfl

theorem unpackExponent_eq_iff (exponent : BitVec 11) :
    unpackExponent word = exponent ↔ word.toNat / twoTo 52 % 2048 = exponent.toNat := by
  rw [← toNat_unpackExponent, ← BitVec.toNat_inj]

theorem unpackMantissa_eq_zero_iff :
    unpackMantissa word = 0#52 ↔ word.toNat % twoTo 52 = 0 := by
  rw [← toNat_unpackMantissa, ← BitVec.toNat_inj]
  rfl

/-- A word is taken apart in the same way by its fields and by the arithmetic. -/
theorem ofWord_eq_ofUnpacked :
    Value.ofWord word.toNat = Value.ofUnpacked (UnpackedFloat.unpack Format.binary64 word) := by
  have sign : (Sign.ofBitVec (unpackSign word) == .negative) =
      ((word.toNat / twoTo 63) % 2 == 1) := by
    rw [sign_eq_negative, toNat_unpackSign]
  have special := unpackExponent_eq_iff word (-1#11)
  have small := unpackExponent_eq_iff word 0#11
  have fraction := unpackMantissa_eq_zero_iff word
  unfold Value.ofWord UnpackedFloat.unpack
  dsimp only
  by_cases isSpecial : word.toNat / twoTo 52 % 2048 = 2047
  · rw [if_pos isSpecial, if_pos (special.2 isSpecial)]
    by_cases isZero : word.toNat % twoTo 52 = 0
    · rw [if_pos isZero, if_pos (fraction.2 isZero), ← sign]
      rfl
    · rw [if_neg isZero, if_neg (mt fraction.1 isZero)]
      rfl
  · rw [if_neg isSpecial, if_neg (mt special.1 isSpecial)]
    by_cases isSmall : word.toNat / twoTo 52 % 2048 = 0
    · rw [if_pos isSmall, if_pos (small.2 isSmall)]
      by_cases isZero : word.toNat % twoTo 52 = 0
      · rw [dif_pos (fraction.2 isZero), isZero, ← sign]
        rfl
      · have notZero := mt fraction.1 isZero
        rw [dif_neg notZero, ← sign, ← toNat_unpackMantissa, small.2 isSmall]
        rfl
    · rw [if_neg isSmall, if_neg (mt small.1 isSmall), ← sign, ← toNat_unpackMantissa,
        ← toNat_unpackExponent, ← toNat_implicitBit]
      rfl

end Fields

theorem value_eq_ofUnpacked (x : Float) : value x = Value.ofUnpacked x.toModel.unpack :=
  ofWord_eq_ofUnpacked x.toBits.toBitVec

theorem beq_eq_unpack (x y : Float) :
    (x == y) = x.toModel.unpack.beq y.toModel.unpack := rfl

/-- Only an infinity is equal to an infinity, and only to that of its sign. -/
theorem beq_infinite_iff (x : Float) {y : Float} (sign : Sign)
    (infinite : y.toModel.unpack = .infinity sign) :
    (x == y) = true ↔ value x = .infinite (sign == .negative) := by
  rw [beq_eq_unpack, infinite, value_eq_ofUnpacked]
  cases sign <;> rcases x.toModel.unpack with ⟨_ | _⟩ | _ | ⟨_ | _⟩ | ⟨_ | _, m, e, pos⟩ <;>
    constructor <;> intro same <;> first | rfl | cases same

theorem beq_infinity_iff (x : Float) : (x == infinity) = true ↔ value x = .infinite false :=
  beq_infinite_iff x .positive rfl

theorem beq_negativeInfinity_iff (x : Float) :
    (x == negativeInfinity) = true ↔ value x = .infinite true :=
  beq_infinite_iff x .negative rfl

/-- What is equal to zero is a zero of either sign. -/
theorem unpack_of_beq_zero {x : Float} (zero : (x == 0) = true) :
    ∃ sign, x.toModel.unpack = .zero sign := by
  have unpacked : (0 : Float).toModel.unpack = .zero .positive := rfl
  rw [beq_eq_unpack, unpacked] at zero
  rcases found : x.toModel.unpack with sign | _ | sign | ⟨sign, m, e, pos⟩
  all_goals rw [found] at zero
  · cases sign <;> cases zero
  · cases zero
  · exact ⟨sign, rfl⟩
  · cases sign <;> cases zero

theorem abs_of_beq_zero {x : Float} (zero : (x == 0) = true) : x.abs = 0 := by
  obtain ⟨sign, unpacked⟩ := unpack_of_beq_zero zero
  change Float.ofModel (Float.Model.pack x.toModel.unpack.abs) = 0
  rw [unpacked]
  cases sign <;> rfl

theorem exact_of_beq_zero {x : Float} (zero : (x == 0) = true) : exact x = 0 := by
  obtain ⟨sign, unpacked⟩ := unpack_of_beq_zero zero
  rw [exact, value_eq_ofUnpacked, unpacked]
  exact Finite.exact_of_significand_eq_zero rfl

end Decomposition.Binary64

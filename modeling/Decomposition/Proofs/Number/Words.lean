import Decomposition.Number.Binary64
import Mathlib

namespace Decomposition.Binary64

/-- The significand has at most 53 bits, and fewer only at the lowest exponent. -/
structure Finite.Canonical (v : Finite) : Prop where
  significand_lt : v.significand < 2 ^ 53
  exponent_ge : -1074 ≤ v.exponent
  exponent_le : v.exponent ≤ 971
  normal : -1074 < v.exponent → 2 ^ 52 ≤ v.significand

/-- An exponent that is one larger makes the word larger by one implicit bit. -/
def Finite.word (v : Finite) : Nat :=
  signBit v.negative + (v.exponent + 1074).toNat * twoTo 52 + v.significand

/-- The three fields of a word of 64 bits. -/
theorem word_eq_fields {word : Nat} (bound : word < 2 ^ 64) :
    word = signBit ((word / twoTo 63) % 2 == 1) + word / twoTo 52 % 2048 * twoTo 52 +
      word % twoTo 52 := by
  simp only [signBit, twoTo, Nat.pow_eq, beq_iff_eq]
  split <;> omega

theorem fields_of_ofWord {word : Nat} (bound : word < 2 ^ 64) {v : Finite}
    (finite : Value.ofWord word = .finite v) : v.Canonical ∧ word = v.word := by
  have fields := word_eq_fields bound
  have width : word / twoTo 52 % 2048 < 2048 := Nat.mod_lt _ (by decide)
  have short : word % twoTo 52 < twoTo 52 := Nat.mod_lt _ (by decide)
  unfold Value.ofWord at finite
  dsimp only at finite
  generalize (word / twoTo 63 % 2 == 1) = negative at finite fields
  generalize word / twoTo 52 % 2048 = biased at finite fields width
  generalize word % twoTo 52 = fraction at finite fields short
  have implicit : twoTo 52 = 4503599627370496 := rfl
  rw [implicit] at finite fields short
  split at finite
  · split at finite <;> cases finite
  · rw [Finite.word, implicit]
    split at finite
    · rename_i low
      cases finite
      have lowest : ((-1074 : Int) + 1074).toNat = 0 := rfl
      refine ⟨by constructor <;> dsimp only <;> omega, ?_⟩
      rw [lowest, fields, low]
    · rename_i special low
      cases finite
      obtain ⟨steps, rfl⟩ := Nat.exists_eq_succ_of_ne_zero low
      have shift : ((steps.succ : Nat) - 1075 + 1074 : Int).toNat = steps := by omega
      refine ⟨by constructor <;> dsimp only <;> omega, ?_⟩
      rw [shift, fields, Nat.succ_mul]
      dsimp only
      omega

theorem fields_of_value {x : Float} {v : Finite} (finite : value x = .finite v) :
    v.Canonical ∧ x.toBits.toNat = v.word :=
  fields_of_ofWord x.toBits.toNat_lt finite

/-- A finite double is determined by its value. -/
theorem eq_of_finite {x : Float} {v : Finite} (finite : value x = .finite v) :
    x = Float.ofBits (UInt64.ofNat v.word) := by
  rw [← (fields_of_value finite).2, UInt64.ofNat_toNat, Float.ofBits_toBits]

theorem eq_of_infinite {x : Float} {negative : Bool} (infinite : value x = .infinite negative) :
    x = if negative then negativeInfinity else infinity := by
  have fields := word_eq_fields x.toBits.toNat_lt
  unfold value Value.ofWord at infinite
  dsimp only at infinite
  split at infinite
  · split at infinite
    · rename_i special none
      cases infinite
      rw [special, none] at fields
      have own : x = Float.ofBits (UInt64.ofNat x.toBits.toNat) := by
        rw [UInt64.ofNat_toNat, Float.ofBits_toBits]
      rw [own, fields]
      cases x.toBits.toNat / twoTo 63 % 2 == 1 <;> rfl
    · cases infinite
  · split at infinite <;> cases infinite

end Decomposition.Binary64

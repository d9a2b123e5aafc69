import Decomposition.Number.Binary64
import Mathlib.Data.Rat.Lemmas
import Mathlib.Algebra.Field.Rat

namespace Decomposition.Binary64

def Finite.exact (x : Finite) : ℚ := x.signed x.significand * 2 ^ x.exponent

theorem Finite.exact_of_significand_eq_zero {x : Finite} (zero : x.significand = 0) :
    x.exact = 0 := by
  simp [exact, signed, zero]

/-- The rational that a double stands for. Infinities and undefined values stand for none and are
read as zero. -/
def exact (x : Float) : ℚ :=
  match value x with
  | .finite v => v.exact
  | .infinite _ | .nan => 0

/-- The double stands for a rational. -/
def isFinite (x : Float) : Bool :=
  match value x with
  | .finite _ => true
  | .infinite _ | .nan => false

theorem exists_of_isFinite {x : Float} (finite : isFinite x = true) :
    ∃ v, value x = .finite v := by
  unfold isFinite at finite
  split at finite
  · rename_i v found
    exact ⟨v, found⟩
  all_goals cases finite

end Decomposition.Binary64

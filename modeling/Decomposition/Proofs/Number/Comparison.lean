import Decomposition.Proofs.Number.Unpacked
import Mathlib

namespace Decomposition.Binary64
open Float.Model Float.Model.UnpackedFloat

/-- The place of a number: its class from minus to plus infinity, the exponent, the significand. -/
def placeOf : UnpackedFloat → ℤ ×ₗ ℤ ×ₗ ℤ
  | .infinity .negative => toLex (-2, toLex (0, 0))
  | .finite .negative m e _ => toLex (-1, toLex (-e, -m))
  | .notANumber | .zero _ => toLex (0, toLex (0, 0))
  | .finite .positive m e _ => toLex (1, toLex (e, m))
  | .infinity .positive => toLex (2, toLex (0, 0))

section Pairs
variable (e g : ℤ) (m n : ℕ)

theorem isLE_compare_then :
    ((compare e g).then (compare m n)).isLE = true ↔ e < g ∨ e = g ∧ m ≤ n := by
  have significands : (compare m n).isLE = true ↔ m ≤ n :=
    Ordering.isLE_iff_ne_gt.trans compare_le_iff_le
  simp [Ordering.isLE_then_iff_or, compare_lt_iff_lt, significands]

theorem isGE_compare_then :
    ((compare e g).then (compare m n)).isGE = true ↔ g < e ∨ e = g ∧ n ≤ m := by
  have exponents : (compare e g).swap = compare g e := Std.OrientedCmp.eq_swap.symm
  have significands : (compare m n).swap = compare n m := Std.OrientedCmp.eq_swap.symm
  rw [← Ordering.isLE_swap, Ordering.swap_then, exponents, significands, isLE_compare_then,
    eq_comm (a := g)]

end Pairs

section Unpacked
variable (a b : UnpackedFloat)

theorem unpacked_le_iff :
    a.le b = true ↔ a.isNaN = false ∧ b.isNaN = false ∧ placeOf a ≤ placeOf b := by
  rcases a with ⟨_ | _⟩ | _ | ⟨_ | _⟩ | ⟨_ | _, m, e, _⟩ <;>
    rcases b with ⟨_ | _⟩ | _ | ⟨_ | _⟩ | ⟨_ | _, n, g, _⟩ <;>
      first
      | decide
      | simp [UnpackedFloat.le, UnpackedFloat.compare, UnpackedFloat.isNaN, placeOf,
          Prod.Lex.toLex_le_toLex, isLE_compare_then, isGE_compare_then]

theorem compare_swap : b.compare a = (a.compare b).map Ordering.swap := by
  have exponents (e g : ℤ) : compare g e = (compare e g).swap := Std.OrientedCmp.eq_swap
  have significands (m n : ℕ) : compare n m = (compare m n).swap := Std.OrientedCmp.eq_swap
  rcases a with ⟨_ | _⟩ | _ | ⟨_ | _⟩ | ⟨_ | _, m, e, _⟩ <;>
    rcases b with ⟨_ | _⟩ | _ | ⟨_ | _⟩ | ⟨_ | _, n, g, _⟩ <;>
      first
      | rfl
      | simp [UnpackedFloat.compare, Ordering.swap_then, exponents e g, significands m n]

/-- Numbers can be compared, and nothing else can. -/
theorem compare_isSome : (a.compare b).isSome = (!a.isNaN && !b.isNaN) := by
  rcases a with ⟨_ | _⟩ | _ | ⟨_ | _⟩ | ⟨_ | _, m, e, _⟩ <;>
    rcases b with ⟨_ | _⟩ | _ | ⟨_ | _⟩ | ⟨_ | _, n, g, _⟩ <;> rfl

/-- A number is less than another one if that is not at most as large. -/
theorem unpacked_lt_iff :
    a.lt b = true ↔ a.isNaN = false ∧ b.isNaN = false ∧ ¬ b.le a = true := by
  have compared := compare_isSome a b
  rw [UnpackedFloat.lt, UnpackedFloat.le, compare_swap a b]
  cases found : a.compare b with
  | none =>
      rw [found] at compared
      cases first : a.isNaN <;> cases second : b.isNaN <;> simp_all
  | some order =>
      rw [found] at compared
      obtain ⟨first, second⟩ : a.isNaN = false ∧ b.isNaN = false := by
        simpa using compared.symm
      cases order <;> simp [first, second]

end Unpacked

section Order
variable {x y z : Float}

/-- The place of a double in the order of numbers. -/
def place (x : Float) : ℤ ×ₗ ℤ ×ₗ ℤ := placeOf x.toModel.unpack

theorem le_iff_unpack (x y : Float) :
    x ≤ y ↔ x.toModel.unpack.le y.toModel.unpack = true := by
  change decide _ = true ↔ _
  rw [decide_eq_true_iff]
  rfl

theorem le_iff_place : x ≤ y ↔ x.isNaN = false ∧ y.isNaN = false ∧ place x ≤ place y :=
  (le_iff_unpack x y).trans (unpacked_le_iff _ _)

theorem lt_iff_place : x < y ↔ x.isNaN = false ∧ y.isNaN = false ∧ place x < place y := by
  have unpacked : x < y ↔ x.toModel.unpack.lt y.toModel.unpack = true := by
    change decide _ = true ↔ _
    rw [decide_eq_true_iff]
    rfl
  rw [unpacked, unpacked_lt_iff, unpacked_le_iff]
  constructor
  · rintro ⟨first, second, above⟩
    exact ⟨first, second, not_le.1 fun below => above ⟨second, first, below⟩⟩
  · rintro ⟨first, second, below⟩
    exact ⟨first, second, fun above => not_le.2 below above.2.2⟩

protected theorem le_of_not_lt (first : x.isNaN = false) (second : y.isNaN = false)
    (above : ¬ y < x) : x ≤ y := by
  refine le_iff_place.2 ⟨first, second, not_lt.1 fun below => ?_⟩
  exact above (lt_iff_place.2 ⟨second, first, below⟩)

protected theorem le_trans (below : x ≤ y) (above : y ≤ z) : x ≤ z := by
  obtain ⟨first, _, low⟩ := le_iff_place.1 below
  obtain ⟨_, second, high⟩ := le_iff_place.1 above
  exact le_iff_place.2 ⟨first, second, low.trans high⟩

/-- Doubles that are equal are in order both ways. -/
theorem le_and_ge_of_beq (same : (x == y) = true) : x ≤ y ∧ y ≤ x := by
  rw [beq_eq_unpack, UnpackedFloat.beq, beq_iff_eq] at same
  rw [le_iff_unpack, le_iff_unpack, UnpackedFloat.le, UnpackedFloat.le,
    compare_swap x.toModel.unpack, same]
  exact ⟨rfl, rfl⟩

/-- Numbers are equal if they have the same place. What is no number equals nothing. -/
theorem beq_iff_place :
    (x == y) = true ↔ x.isNaN = false ∧ y.isNaN = false ∧ place x = place y := by
  constructor
  · intro same
    obtain ⟨below, above⟩ := le_and_ge_of_beq same
    obtain ⟨first, second, low⟩ := le_iff_place.1 below
    obtain ⟨_, _, high⟩ := le_iff_place.1 above
    exact ⟨first, second, le_antisymm low high⟩
  · rintro ⟨first, second, same⟩
    have below := (le_iff_unpack x y).1 (le_iff_place.2 ⟨first, second, same.le⟩)
    have above := (le_iff_unpack y x).1 (le_iff_place.2 ⟨second, first, same.ge⟩)
    rw [UnpackedFloat.le] at below above
    rw [compare_swap x.toModel.unpack] at above
    rw [beq_eq_unpack, UnpackedFloat.beq]
    cases found : x.toModel.unpack.compare y.toModel.unpack with
    | none =>
        rw [found] at below
        cases below
    | some order =>
        rw [found] at below above
        cases order with
        | lt => cases above
        | eq => rfl
        | gt => cases below

theorem beq_self_of_number (number : x.isNaN = false) : (x == x) = true :=
  beq_iff_place.2 ⟨number, number, rfl⟩

instance partialEquivBEq : PartialEquivBEq Float where
  symm same := by
    obtain ⟨first, second, places⟩ := beq_iff_place.1 same
    exact beq_iff_place.2 ⟨second, first, places.symm⟩
  trans same next := by
    obtain ⟨first, _, places⟩ := beq_iff_place.1 same
    obtain ⟨_, third, others⟩ := beq_iff_place.1 next
    exact beq_iff_place.2 ⟨first, third, places.trans others⟩

end Order

end Decomposition.Binary64
